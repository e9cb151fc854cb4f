import Mathlib.Data.List.Basic
import SearchQuery.Proofs.Lexer.Spelling
import SearchQuery.Query.Render

/-!
What rendered words, patterns, bounds and phrases are read as. Each way of escaping writes the
characters it is given, and none of them writes a backslash before `u`. Main statements: a rendered
term, field name, pattern, bound or phrase is one token, with the text that was rendered.
-/

namespace SearchQuery.Lexer

open Text (isBlank)

/-! ## Words -/

theorem ne_u_of_isReserved {pattern first : Bool} {c : Char}
    (h : isReserved pattern first c = true) : c ≠ 'u' := by
  rintro rfl
  revert h
  cases pattern <;> cases first <;> decide

theorem endsWord_of_not_isReserved {pattern first : Bool} {c : Char}
    (h : isReserved pattern first c = false) : endsWord false c = false := by
  by_cases hc : c = '\\'
  · subst hc
    rfl
  · simp only [isReserved, hc, ↓reduceIte, Bool.or_eq_false_iff] at h
    simp_all [endsWord]

/-- A rendered character of a word. The backslashes of a pattern are left out here. -/
theorem Writes.escapeChar {pattern first : Bool} {c : Char} {cs : List Char}
    {us : List (Bool × Char)} (hc : pattern = true → c ≠ '\\')
    (more : Writes (endsWord false) cs us) :
    Writes (endsWord false) (escapeChar pattern first c ++ cs)
      ((isReserved pattern first c, c) :: us) := by
  cases hr : isReserved pattern first c with
  | true =>
    simp only [SearchQuery.escapeChar, hr, ↓reduceIte]
    exact .escaped (ne_u_of_isReserved hr) more
  | false =>
    have hslash : c ≠ '\\' := by
      rintro rfl
      cases pattern with
      | true => exact hc rfl rfl
      | false => cases first <;> exact absurd hr (by decide)
    simp only [SearchQuery.escapeChar, hr, Bool.false_eq_true, ↓reduceIte]
    exact .plain (endsWord_of_not_isReserved hr) hslash more

theorem writes_flatMap_escapeChar (cs : List Char) :
    Writes (endsWord false) (cs.flatMap (escapeChar false false))
      (cs.map fun c => (isReserved false false c, c)) := by
  induction cs with
  | nil => exact .nil
  | cons c cs ih => exact .escapeChar (by simp) ih

theorem opensWord_escapeChars {pattern : Bool} {cs : List Char} (h : cs ≠ []) :
    opensWord (escapeChars pattern cs) = true := by
  obtain ⟨c, cs, rfl⟩ := List.exists_cons_of_ne_nil h
  cases hr : isReserved pattern true c with
  | true => simp [escapeChars, escapeChar, hr, opensWord]
  | false =>
    by_cases hc : c = '\\'
    · subst hc
      simp [escapeChars, escapeChar, hr, opensWord]
    · simp only [isReserved, hc, ↓reduceIte, Bool.or_eq_false_iff] at hr
      simp_all [escapeChars, escapeChar, isReserved, opensWord]

theorem opensWord_escapeTerm {pattern : Bool} {text : String} (h : text ≠ "") :
    opensWord (escapeTerm pattern text) = true := by
  rw [escapeTerm]
  split
  · simp [opensWord]
  · exact opensWord_escapeChars (by simpa using h)

/-- A rendered word writes its text, and a keyword among them has an escape. -/
theorem exists_writes_escapeTerm (text : String) :
    ∃ us, Writes (endsWord false) (escapeTerm false text) us ∧ us.map Prod.snd = text.toList ∧
      (isKeyword text = true → us.any Prod.fst = true) := by
  by_cases hk : isKeyword text = true
  · have hcases : text = "AND" ∨ text = "OR" ∨ text = "NOT" := by
      simpa [isKeyword, or_assoc] using hk
    rcases hcases with rfl | rfl | rfl
    · exact ⟨_, .escaped (by decide) (writes_flatMap_escapeChar ['N', 'D']), rfl, fun _ => rfl⟩
    · exact ⟨_, .escaped (by decide) (writes_flatMap_escapeChar ['R']), rfl, fun _ => rfl⟩
    · exact ⟨_, .escaped (by decide) (writes_flatMap_escapeChar ['O', 'T']), rfl, fun _ => rfl⟩
  · rw [escapeTerm, if_neg hk]
    cases ht : text.toList with
    | nil => exact ⟨[], .nil, rfl, fun h => absurd h hk⟩
    | cons c cs =>
      refine ⟨_, .escapeChar (by simp) (writes_flatMap_escapeChar cs), ?_, fun h => absurd h hk⟩
      simp [Function.comp_def]

/-- A word that is no keyword, or is escaped, is read as a term or a pattern. -/
theorem Word.queryKind_of_not_isKeyword {w : Word}
    (h : isKeyword (String.ofList w.text) = true → w.escaped = true) :
    w.queryKind = w.plainKind := by
  cases he : w.escaped with
  | true => simp [queryKind, he]
  | false =>
    have hk : ¬ isKeyword (String.ofList w.text) = true := fun hk => by simp [h hk] at he
    simp only [isKeyword, Bool.or_eq_true, beq_iff_eq, not_or] at hk
    have hne : ∀ word : String, String.ofList w.text ≠ word → (w.text == word.toList) = false := by
      intro word hword
      simpa [beq_eq_false_iff_ne, ← String.toList_inj] using hword
    simp only [queryKind, hne _ hk.1.1, hne _ hk.1.2, hne _ hk.2, Bool.and_false, Bool.false_eq_true,
      ↓reduceIte]

namespace Spells

/-- A rendered term. -/
theorem term {text : String} (nonempty : text ≠ "") (plain : text.toList.any isWild = false) :
    Spells false (escapeTerm false text) [.term text] := by
  obtain ⟨us, hwrites, htext, hkeyword⟩ := exists_writes_escapeTerm text
  have hkind : (Word.ofUnits us).queryKind = .term text := by
    have hwild : (us.any fun u => !u.1 && isWild u.2) = false := by
      rw [← htext, List.any_map, List.any_eq_false] at plain
      rw [List.any_eq_false]
      intro u hu
      have := plain u hu
      simp_all
    rw [Word.queryKind_of_not_isKeyword (by simpa [htext] using hkeyword)]
    simp [Word.plainKind, hwild, htext]
  rw [← hkind]
  exact word hwrites (opensWord_escapeTerm nonempty)

/-- A rendered field name and what follows its colon. -/
theorem fieldName {name : String} {tail : List Char} {ks : List Token.Kind} (nonempty : name ≠ "")
    (htail : Spells false tail ks) :
    Spells false (escapeTerm false name ++ ':' :: tail) (.field name :: ks) := by
  obtain ⟨us, hwrites, htext, -⟩ := exists_writes_escapeTerm name
  have hfield := field hwrites (opensWord_escapeTerm nonempty) htail
  rwa [htext, String.ofList_toList] at hfield

end Spells

/-! ## Patterns -/

/-- The characters of a pattern, each with whether it is escaped. There are none if a backslash
stands before anything but `*`, `?` and a backslash. -/
def patternUnits? : List Char → Option (List (Bool × Char))
  | [] => some []
  | c :: rest =>
    if c = '\\' then
      match rest with
      | d :: rest => if Word.isPatternSign d then (patternUnits? rest).map ((true, d) :: ·) else none
      | [] => none
    else (patternUnits? rest).map ((false, c) :: ·)

/-- Whether a character is a `*` or `?` without a backslash. -/
def isOpenWild (u : Bool × Char) : Bool := !u.1 && isWild u.2

/-- Whether a text is a pattern: every backslash in it escapes a sign of patterns, and some `*` or
`?` is not escaped. -/
def isPattern (text : String) : Bool := (patternUnits? text.toList).any (·.any isOpenWild)

theorem escapeChar_slash (first : Bool) : escapeChar true first '\\' = ['\\'] := rfl

theorem escapeChar_of_isPatternSign {c : Char} (h : Word.isPatternSign c = true) :
    escapeChar true false c = [c] := by
  simp only [Word.isPatternSign, Bool.or_eq_true, beq_iff_eq] at h
  rcases h with (rfl | rfl) | rfl <;> decide

/-- Where `*` and `?` are never escaped, they are all open. -/
theorem isOpenWild_of_escapes {escapes : Char → Bool} (star : escapes '*' = false)
    (question : escapes '?' = false) (c : Char) : isOpenWild (escapes c, c) = isWild c := by
  cases hw : isWild c with
  | false => simp [isOpenWild, hw]
  | true =>
    have hplain : escapes c = false := by
      simp only [isWild, Bool.or_eq_true, beq_iff_eq] at hw
      rcases hw with rfl | rfl
      · exact star
      · exact question
    simp [isOpenWild, hw, hplain]

theorem isOpenWild_isReserved (pattern first : Bool) (c : Char) :
    isOpenWild (isReserved pattern first c, c) = isWild c := by
  apply isOpenWild_of_escapes
  · cases pattern <;> cases first <;> decide
  · cases pattern <;> cases first <;> decide

/-- A rendered pattern, whose first character may be escaped where the others are not. -/
theorem exists_writes_pattern {cs : List Char} {us : List (Bool × Char)}
    (h : patternUnits? cs = some us) (first : Bool) :
    ∃ us', Writes (endsWord false)
        ((cs.take 1).flatMap (escapeChar true first) ++ (cs.drop 1).flatMap (escapeChar true false))
        us' ∧ us'.flatMap patternUnit = cs ∧ us'.any isOpenWild = us.any isOpenWild := by
  fun_induction patternUnits? cs generalizing us first with
  | case1 =>
    cases h
    exact ⟨[], .nil, rfl, rfl⟩
  | case2 d rest hd ih =>
    obtain ⟨vs, hvs, rfl⟩ := Option.map_eq_some_iff.mp h
    obtain ⟨us', hwrites, hpattern, hwild⟩ := ih hvs false
    rw [← List.flatMap_append, List.take_append_drop] at hwrites
    refine ⟨(true, d) :: us', ?_, ?_, ?_⟩
    · have hu : d ≠ 'u' := by rintro rfl; exact absurd hd (by decide)
      simpa [escapeChar_slash, escapeChar_of_isPatternSign hd] using Writes.escaped hu hwrites
    · simp [patternUnit, hd, hpattern]
    · simp [isOpenWild, hwild]
  | case3 => cases h
  | case4 => cases h
  | case5 c rest hc ih =>
    obtain ⟨vs, hvs, rfl⟩ := Option.map_eq_some_iff.mp h
    obtain ⟨us', hwrites, hpattern, hwild⟩ := ih hvs false
    rw [← List.flatMap_append, List.take_append_drop] at hwrites
    refine ⟨(isReserved true first c, c) :: us', ?_, ?_, ?_⟩
    · simpa using Writes.escapeChar (fun _ : true = true => hc) hwrites
    · have hunit : patternUnit (isReserved true first c, c) = [c] := by
        cases hs : Word.isPatternSign c with
        | false => simp [patternUnit, hs]
        | true =>
          simp only [Word.isPatternSign, Bool.or_eq_true, beq_iff_eq] at hs
          rcases hs with (rfl | rfl) | rfl
          · cases first <;> rfl
          · cases first <;> rfl
          · exact absurd rfl hc
      rw [List.flatMap_cons, hunit, hpattern]
      rfl
    · rw [List.any_cons, List.any_cons, isOpenWild_isReserved, hwild]
      rfl

theorem not_isKeyword_of_isWild {text : String} (h : text.toList.any isWild = true) :
    ¬ isKeyword text = true := by
  intro hk
  have hcases : text = "AND" ∨ text = "OR" ∨ text = "NOT" := by
    simpa [isKeyword, or_assoc] using hk
  rcases hcases with rfl | rfl | rfl <;> exact absurd h (by decide)

/-- A rendered pattern is one token. -/
theorem Spells.pattern {text : String} (h : isPattern text = true) :
    Spells false (escapeTerm true text) [.wildcard text] := by
  obtain ⟨us, hunits, hopen⟩ := (Option.any_eq_true _ _).mp h
  obtain ⟨us', hwrites, hpattern, hwild⟩ := exists_writes_pattern hunits true
  obtain ⟨u, hu, hou⟩ := List.any_eq_true.mp (hwild.trans hopen)
  have hchar : isWild u.2 = true := by
    simp only [isOpenWild, Bool.and_eq_true] at hou
    exact hou.2
  have htext : text.toList.any isWild = true := by
    refine List.any_eq_true.mpr ⟨u.2, ?_, hchar⟩
    rw [← hpattern]
    refine List.mem_flatMap.mpr ⟨u, hu, ?_⟩
    unfold patternUnit
    split <;> simp
  have hescape : escapeTerm true text = (text.toList.take 1).flatMap (escapeChar true true) ++
      (text.toList.drop 1).flatMap (escapeChar true false) := by
    rw [escapeTerm, if_neg (not_isKeyword_of_isWild htext)]
    cases text.toList <;> simp [escapeChars]
  have hkind : (Word.ofUnits us').queryKind = .wildcard text := by
    have hwords : (us'.map Prod.snd).any isWild = true :=
      List.any_eq_true.mpr ⟨u.2, List.mem_map_of_mem hu, hchar⟩
    have hkeyword : ¬ isKeyword (String.ofList (Word.ofUnits us').text) = true :=
      not_isKeyword_of_isWild (by simpa using hwords)
    rw [Word.queryKind_of_not_isKeyword fun hk => absurd hk hkeyword]
    have hw : (Word.ofUnits us').wildcard = true :=
      (Word.wildcard_ofUnits us').trans (hwild.trans hopen)
    rw [Word.plainKind, if_pos hw, Word.pattern_ofUnits, hpattern, String.ofList_toList]
  rw [← hkind]
  refine word (hescape ▸ hwrites) (opensWord_escapeTerm ?_)
  rintro rfl
  exact absurd htext (by decide)

/-! ## Bounds -/

/-- A character of a rendered bound, and whether it is escaped. -/
def boundUnit (c : Char) : Bool × Char := (isBlank c || ['\\', '"', ']', '}'].contains c, c)

theorem writes_flatMap_escapeBoundChar (cs : List Char) :
    Writes (endsWord true) (cs.flatMap escapeBoundChar) (cs.map boundUnit) := by
  induction cs with
  | nil => exact .nil
  | cons c cs ih =>
    rw [List.flatMap_cons, List.map_cons]
    cases hr : isBlank c || ['\\', '"', ']', '}'].contains c with
    | true =>
      have hu : c ≠ 'u' := by rintro rfl; exact absurd hr (by decide)
      simp only [escapeBoundChar, boundUnit, hr, ↓reduceIte]
      exact .escaped hu ih
    | false =>
      have hslash : c ≠ '\\' := by rintro rfl; exact absurd hr (by decide)
      have hends : endsWord true c = false := by
        simp_all [endsWord]
      simp only [escapeBoundChar, boundUnit, hr, Bool.false_eq_true, ↓reduceIte]
      exact .plain hends hslash ih

/-- Whether a text can be a bound of a range: it is not empty, and it does not have both a backslash
and a sign of patterns, which a bound keeps as it is but for its backslashes. -/
def isBound (text : String) : Bool :=
  !text.isEmpty && !(text.toList.contains '\\' && text.toList.any isWild)

/-- What a bound is read as. -/
def boundKind (text : String) : Token.Kind :=
  if text ≠ "*" ∧ text.toList.any isWild = true then .wildcard text else .term text

theorem isOpenWild_boundUnit (c : Char) : isOpenWild (boundUnit c) = isWild c :=
  @isOpenWild_of_escapes (fun d => (boundUnit d).1) (by decide) (by decide) c

/-- A text with every backslash doubled. -/
def doubled (cs : List Char) : List Char := cs.flatMap fun c => if c = '\\' then ['\\', c] else [c]

theorem length_doubled (cs : List Char) : (doubled cs).length = cs.length + cs.count '\\' := by
  induction cs with
  | nil => rfl
  | cons c cs ih =>
    have hcons : doubled (c :: cs) = (if c = '\\' then ['\\', c] else [c]) ++ doubled cs := rfl
    rw [hcons, List.length_append, ih, List.length_cons]
    by_cases hc : c = '\\'
    · subst hc
      simp only [↓reduceIte, List.length_cons, List.length_nil, List.count_cons_self]
      omega
    · simp only [if_neg hc, List.length_cons, List.length_nil, List.count_cons_of_ne hc]
      omega

/-- Doubling changes every text that has a backslash. -/
theorem doubled_eq_self_iff {cs : List Char} : doubled cs = cs ↔ '\\' ∉ cs := by
  constructor
  · intro h
    have hlength := length_doubled cs
    rw [h] at hlength
    exact List.count_eq_zero.mp (by omega)
  · intro h
    have hplain : ∀ c ∈ cs, (if c = '\\' then ['\\', c] else [c]) = [c] := by
      intro c hc
      exact if_neg (ne_of_mem_of_not_mem hc h)
    calc doubled cs
      _ = cs.flatMap (fun c => [c]) := List.flatMap_congr hplain
      _ = cs := by simp

theorem any_isWild_doubled (cs : List Char) : (doubled cs).any isWild = cs.any isWild := by
  rw [doubled, List.any_flatMap]
  congr 1
  funext c
  by_cases hc : c = '\\'
  · subst hc
    decide
  · simp [hc]

/-- What a bound is read back as. A pattern keeps the escapes of its backslashes. -/
def rereadBound (text : String) : String :=
  if text.toList.any isWild then String.ofList (doubled text.toList) else text

theorem rereadBound_eq_self_iff {text : String} :
    rereadBound text = text ↔ ¬ ('\\' ∈ text.toList ∧ text.toList.any isWild = true) := by
  unfold rereadBound
  split
  · rename_i hwild
    rw [← String.toList_inj, String.toList_ofList, doubled_eq_self_iff]
    simp [hwild]
  · rename_i hwild
    simp [hwild]

theorem rereadBound_of_isBound {text : String} (h : isBound text = true) :
    text ≠ "" ∧ rereadBound text = text := by
  rw [rereadBound_eq_self_iff]
  simp only [isBound, Bool.and_eq_true, Bool.not_eq_true', Bool.and_eq_false_iff] at h
  constructor
  · rintro rfl
    exact absurd h.1 (by decide)
  · rintro ⟨hslash, hwild⟩
    rcases h.2 with hno | hno
    · simp [hslash] at hno
    · rw [hwild] at hno
      cases hno

/-- Where only backslashes are escaped of the signs of patterns, a pattern doubles them. -/
theorem patternUnit_of_escapes {escapes : Char → Bool} (slash : escapes '\\' = true)
    (star : escapes '*' = false) (question : escapes '?' = false) (c : Char) :
    patternUnit (escapes c, c) = if c = '\\' then ['\\', c] else [c] := by
  by_cases hc : c = '\\'
  · subst hc
    simp [patternUnit, slash, Word.isPatternSign]
  · have hplain : (escapes c && Word.isPatternSign c) = false := by
      cases hs : Word.isPatternSign c with
      | false => exact Bool.and_false _
      | true =>
        simp only [Word.isPatternSign, Bool.or_eq_true, beq_iff_eq] at hs
        rcases hs with (rfl | rfl) | rfl
        · rw [star, Bool.false_and]
        · rw [question, Bool.false_and]
        · exact absurd rfl hc
    simp [patternUnit, hplain, hc]

theorem patternUnit_boundUnit (c : Char) :
    patternUnit (boundUnit c) = if c = '\\' then ['\\', c] else [c] :=
  @patternUnit_of_escapes (fun d => (boundUnit d).1) (by decide) (by decide) (by decide) c

theorem rangeKind_boundUnits {text : String} (hto : text ≠ "TO") (hopen : text ≠ "*") :
    (Word.ofUnits (text.toList.map boundUnit)).rangeKind = boundKind (rereadBound text) := by
  have htext : (Word.ofUnits (text.toList.map boundUnit)).text = text.toList := by
    simp [boundUnit, Function.comp_def]
  have hto' : (text.toList == "TO".toList) = false := by
    simpa [beq_eq_false_iff_ne, ← String.toList_inj] using hto
  have hwild : (Word.ofUnits (text.toList.map boundUnit)).wildcard = text.toList.any isWild := by
    rw [Word.wildcard_ofUnits, List.any_map]
    exact congrArg _ (funext isOpenWild_boundUnit)
  have hpattern : (text.toList.map boundUnit).flatMap patternUnit = doubled text.toList := by
    rw [List.flatMap_map]
    exact congrArg (List.flatMap · text.toList) (funext patternUnit_boundUnit)
  simp only [Word.rangeKind, htext, hto', Bool.and_false, Bool.false_eq_true, ↓reduceIte,
    Word.plainKind, hwild, Word.pattern_ofUnits, hpattern, rereadBound]
  by_cases hw : text.toList.any isWild = true
  · have hstar : String.ofList (doubled text.toList) ≠ "*" := by
      intro hsame
      have hslash : '\\' ∉ text.toList := by
        intro hmem
        have hlength := length_doubled text.toList
        have hcount := List.count_pos_iff.mpr hmem
        have hpos := List.length_pos_of_mem hmem
        have hone : (doubled text.toList).length = 1 := by
          rw [← String.length_ofList, hsame]
          rfl
        omega
      rw [doubled_eq_self_iff.mpr hslash, String.ofList_toList] at hsame
      exact hopen hsame
    simp [hw, boundKind, hstar, any_isWild_doubled]
  · simp [hw, boundKind]

/-- A rendered bound is written by characters that are read as the token of the bound that comes
back. -/
theorem exists_writes_escapeBound (text : String) :
    ∃ us, Writes (endsWord true) (escapeBound text) us ∧
      (Word.ofUnits us).rangeKind = boundKind (rereadBound text) := by
  by_cases hto : text = "TO"
  · subst hto
    exact ⟨_, .escaped (by decide) (writes_flatMap_escapeBoundChar ['O']), by decide⟩
  · by_cases hopen : text = "*"
    · subst hopen
      exact ⟨_, .escaped (by decide) (writes_flatMap_escapeBoundChar []), by decide⟩
    · refine ⟨_, ?_, rangeKind_boundUnits hto hopen⟩
      have hneither : ¬ (text == "TO" || text == "*") = true := by simp [hto, hopen]
      rw [escapeBound, if_neg hneither]
      exact writes_flatMap_escapeBoundChar text.toList

theorem escapeBound_ne_nil {text : String} (h : text ≠ "") : escapeBound text ≠ [] := by
  have hne : text.toList ≠ [] := by simpa using h
  obtain ⟨c, cs, hcs⟩ := List.exists_cons_of_ne_nil hne
  rw [escapeBound, hcs]
  split
  · simp
  · rw [List.flatMap_cons, escapeBoundChar]
    split <;> simp

/-! ## Phrases -/

/-- The terms of a phrase with a blank between them. -/
def phraseText (terms : List String) : String :=
  String.ofList ([' '].intercalate (terms.map String.toList))

theorem writes_flatMap_escapePhraseChar (cs : List Char) :
    Writes (· == '"') (cs.flatMap escapePhraseChar)
      (cs.map fun c => (decide (c = '\\' ∨ c = '"'), c)) := by
  induction cs with
  | nil => exact .nil
  | cons c cs ih =>
    rw [List.flatMap_cons, List.map_cons]
    by_cases hc : c = '\\' ∨ c = '"'
    · have hu : c ≠ 'u' := by rintro rfl; exact absurd hc (by decide)
      simp only [escapePhraseChar, if_pos hc, decide_eq_true hc]
      exact .escaped hu ih
    · simp only [escapePhraseChar, if_neg hc, decide_eq_false hc]
      rw [not_or] at hc
      exact .plain (beq_eq_false_iff_ne.mpr hc.2) hc.1 ih

theorem intercalate_escapePhraseTerm (terms : List String) :
    [' '].intercalate (terms.map escapePhraseTerm) =
      ([' '].intercalate (terms.map String.toList)).flatMap escapePhraseChar := by
  induction terms with
  | nil => rfl
  | cons term terms ih =>
    cases terms with
    | nil => simp [escapePhraseTerm]
    | cons term' terms =>
      simp only [List.map_cons, List.intercalate_cons_cons, List.flatMap_append] at ih ⊢
      rw [ih]
      rfl

/-- The rendered terms of a phrase between quotes. -/
theorem Spells.phrase (terms : List String) :
    Spells false ('"' :: ([' '].intercalate (terms.map escapePhraseTerm) ++ ['"']))
      [.phrase (phraseText terms)] := by
  rw [intercalate_escapePhraseTerm]
  have hquoted :=
    quoted (writes_flatMap_escapePhraseChar ([' '].intercalate (terms.map String.toList)))
  simp only [List.map_map, Function.comp_def, List.map_id'] at hquoted
  exact hquoted

end SearchQuery.Lexer
