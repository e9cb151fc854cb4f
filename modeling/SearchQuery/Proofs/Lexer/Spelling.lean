import SearchQuery.Proofs.Lexer.Append
import SearchQuery.Proofs.Number.Canonical

/-!
How words and quoted texts can be written, and what spelled-out texts are read as. A character is
written as itself, behind a backslash, or as the four digits of its code point; `Writes` relates a
text to the characters it stands for, each with whether it was escaped. Main statements: the
readers of words and quoted texts undo `Writes`, and `Spells` composes token by token.
-/

namespace SearchQuery.Lexer

open Number (Single)
open Text (isBlank isHexDigit hexValue scalar?)

/-- A text as a list of characters, each with whether it is escaped. Characters that end the text
are escaped. -/
inductive Writes (ends : Char → Bool) : List Char → List (Bool × Char) → Prop
  | nil : Writes ends [] []
  | plain {c : Char} {cs : List Char} {us : List (Bool × Char)} (inside : ends c = false)
      (literal : c ≠ '\\') (more : Writes ends cs us) : Writes ends (c :: cs) ((false, c) :: us)
  | escaped {c : Char} {cs : List Char} {us : List (Bool × Char)} (short : c ≠ 'u')
      (more : Writes ends cs us) : Writes ends ('\\' :: c :: cs) ((true, c) :: us)
  | unicode {c : Char} {digits cs : List Char} {us : List (Bool × Char)}
      (four : digits.length = 4) (hex : ∀ d ∈ digits, isHexDigit d = true)
      (code : scalar? (hexValue digits) = some c) (more : Writes ends cs us) :
      Writes ends ('\\' :: 'u' :: (digits ++ cs)) ((true, c) :: us)

/-- The word that characters make. -/
def Word.ofUnits (us : List (Bool × Char)) : Word :=
  us.foldr (fun u w => if u.1 then w.consEscaped u.2 else w.cons u.2) .empty

theorem escape_of_ne {position : Nat} {c : Char} (h : c ≠ 'u') (cs : List Char) :
    escape position (c :: cs) = .ok (c, ⟨position + 2, cs⟩) := by
  rw [escape, if_neg h]

theorem escape_unicode {position : Nat} {c : Char} {digits : List Char}
    (four : digits.length = 4) (hex : ∀ d ∈ digits, isHexDigit d = true)
    (code : scalar? (hexValue digits) = some c) (cs : List Char) :
    escape position ('u' :: (digits ++ cs)) = .ok (c, ⟨position + 6, cs⟩) := by
  have htake : (digits ++ cs).take 4 = digits := four ▸ List.take_left
  have hdrop : (digits ++ cs).drop 4 = cs := four ▸ List.drop_left
  have hall : digits.takeWhile isHexDigit = digits := List.takeWhile_eq_self_iff.mpr hex
  simp [escape, htake, hdrop, hall, four, code]

/-- Reading a word undoes writing it. -/
theorem word_of_writes {inRange : Bool} {cs : List Char} {us : List (Bool × Char)}
    (h : Writes (endsWord inRange) cs us) {tail : List Char}
    (hend : endsWordAt inRange tail = true) (offset : Nat) :
    word inRange ⟨offset, cs ++ tail⟩ = .ok (.ofUnits us, ⟨offset + cs.length, tail⟩) := by
  have hslash : ¬ endsWord inRange '\\' = true := by cases inRange <;> decide
  induction h generalizing offset with
  | nil =>
    cases tail with
    | nil => exact word_nil inRange offset
    | cons c tail =>
      have hc : endsWord inRange c = true := hend
      rw [List.nil_append, word_cons, if_pos hc]
      rfl
  | @plain c cs us inside literal _ ih =>
    rw [List.cons_append, word_cons, if_neg (by simp [inside]), if_neg literal, ih,
      List.length_cons, show offset + 1 + cs.length = offset + (cs.length + 1) by omega]
    rfl
  | @escaped c cs us short _ ih =>
    simp only [List.cons_append, word_cons, if_neg hslash, if_pos, escape_of_ne short, ih,
      List.length_cons, show offset + 2 + cs.length = offset + (cs.length + 1 + 1) by omega]
    rfl
  | @unicode c digits cs us four hex code _ ih =>
    simp only [List.cons_append, word_cons, if_neg hslash, if_pos, List.append_assoc,
      escape_unicode four hex code, ih, List.length_cons, List.length_append, four,
      show offset + 6 + cs.length = offset + (4 + cs.length + 1 + 1) by omega]
    rfl

/-- Reading a quoted text undoes writing it. -/
theorem quoted_of_writes {cs : List Char} {us : List (Bool × Char)}
    (h : Writes (· == '"') cs us) (start offset : Nat) (tail : List Char) :
    quoted start ⟨offset, cs ++ '"' :: tail⟩ =
      .ok (us.map Prod.snd, ⟨offset + cs.length + 1, tail⟩) := by
  have hslash : '\\' ≠ '"' := by decide
  induction h generalizing offset with
  | nil => rw [List.nil_append, quoted_cons, if_pos rfl]; rfl
  | @plain c cs us inside literal _ ih =>
    rw [List.cons_append, quoted_cons, if_neg (by simpa using inside), if_neg literal, ih,
      List.length_cons, show offset + 1 + cs.length = offset + (cs.length + 1) by omega]
    rfl
  | @escaped c cs us short _ ih =>
    simp only [List.cons_append, quoted_cons, if_neg hslash, if_pos, escape_of_ne short, ih,
      List.length_cons, show offset + 2 + cs.length = offset + (cs.length + 1 + 1) by omega]
    rfl
  | @unicode c digits cs us four hex code _ ih =>
    simp only [List.cons_append, quoted_cons, if_neg hslash, if_pos, List.append_assoc,
      escape_unicode four hex code, ih, List.length_cons, List.length_append, four,
      show offset + 6 + cs.length = offset + (4 + cs.length + 1 + 1) by omega]
    rfl

@[simp] theorem Word.text_ofUnits (us : List (Bool × Char)) :
    (Word.ofUnits us).text = us.map Prod.snd := by
  induction us with
  | nil => rfl
  | cons u us ih =>
    obtain ⟨escaped, c⟩ := u
    cases escaped
    · exact congrArg (c :: ·) ih
    · exact congrArg (c :: ·) ih

@[simp] theorem Word.escaped_ofUnits (us : List (Bool × Char)) :
    (Word.ofUnits us).escaped = us.any Prod.fst := by
  induction us with
  | nil => rfl
  | cons u us ih =>
    obtain ⟨escaped, c⟩ := u
    cases escaped
    · exact ih
    · rfl

/-- The signs that make a word a pattern. -/
def isWild (c : Char) : Bool := c == '*' || c == '?'

@[simp] theorem Word.wildcard_ofUnits (us : List (Bool × Char)) :
    (Word.ofUnits us).wildcard = us.any fun u => !u.1 && isWild u.2 := by
  induction us with
  | nil => rfl
  | cons u us ih =>
    obtain ⟨escaped, c⟩ := u
    cases escaped
    · change ((Word.ofUnits us).wildcard || c == '*' || c == '?') = _
      rw [ih, List.any_cons, Bool.or_assoc, Bool.or_comm]
      rfl
    · exact ih

/-- A character as patterns write it. -/
def patternUnit (u : Bool × Char) : List Char :=
  if u.1 && Word.isPatternSign u.2 then ['\\', u.2] else [u.2]

@[simp] theorem Word.pattern_ofUnits (us : List (Bool × Char)) :
    (Word.ofUnits us).pattern = us.flatMap patternUnit := by
  induction us with
  | nil => rfl
  | cons u us ih =>
    obtain ⟨escaped, c⟩ := u
    rw [List.flatMap_cons, ← ih]
    cases escaped
    · rfl
    · change (if Word.isPatternSign c then '\\' :: c :: (Word.ofUnits us).pattern
        else c :: (Word.ofUnits us).pattern) = _
      cases h : Word.isPatternSign c <;> simp [patternUnit, h]

/-! ## Texts and token kinds -/

/-- Whether a range is open, and where if it is. -/
def rangeAt (inRange : Bool) (start : Nat) : Option Nat := if inRange then some start else none

/-- A text is cut into tokens of the given kinds, wherever it stands. -/
def Spells (inRange : Bool) (cs : List Char) (ks : List Token.Kind) : Prop :=
  ∀ start offset, ∃ ts, tokens (rangeAt inRange start) ⟨offset, cs⟩ = .ok ts ∧
    ts.map Token.kind = ks

theorem skipBlanks_of_not_blank {c : Char} (h : isBlank c = false) (offset : Nat)
    (rest : List Char) : skipBlanks ⟨offset, c :: rest⟩ = ⟨offset, c :: rest⟩ := by
  simp [skipBlanks, h]

namespace Spells

theorem nil : Spells false [] [] := by
  intro start offset
  exact ⟨[], tokens_of_blank rfl, rfl⟩

theorem blank {inRange : Bool} {c : Char} {cs : List Char} {ks : List Token.Kind}
    (hc : isBlank c = true) (h : Spells inRange cs ks) : Spells inRange (c :: cs) ks := by
  intro start offset
  have hskip : skipBlanks ⟨offset, c :: cs⟩ = skipBlanks ⟨offset + 1, cs⟩ := by
    simp [skipBlanks, hc, Nat.add_right_comm, Nat.add_assoc]
  rw [tokens_congr hskip]
  exact h start (offset + 1)

/-- One token and what follows it. -/
theorem step {inRange inRange' : Bool} {c : Char} {rest next : List Char} {k : Token.Kind}
    {ks : List Token.Kind} (hc : isBlank c = false)
    (hread : ∀ start offset, ∃ start' offset', token (rangeAt inRange start) offset c rest =
      .ok ⟨k, rangeAt inRange' start', ⟨offset', next⟩⟩)
    (hnext : Spells inRange' next ks) : Spells inRange (c :: rest) (k :: ks) := by
  intro start offset
  have hskip := skipBlanks_of_not_blank hc offset rest
  have hrest : (skipBlanks ⟨offset, c :: rest⟩).rest = c :: rest := by rw [hskip]
  obtain ⟨start', offset', hstep⟩ := hread start offset
  obtain ⟨ts, hts, hkinds⟩ := hnext start' offset'
  refine ⟨⟨k, offset⟩ :: ts, ?_, by rw [List.map_cons, hkinds]⟩
  rw [tokens_of_cons hrest, hskip, hstep]
  simp only [hts, Except.map]

theorem append {inRange : Bool} {cs tail : List Char} {ks ks' : List Token.Kind}
    (h : Spells inRange cs ks) (hsep : separates tail = true) (htail : Spells false tail ks') :
    Spells inRange (cs ++ tail) (ks ++ ks') := by
  intro start offset
  obtain ⟨ts, hts, hkinds⟩ := h start offset
  obtain ⟨ts', hts', hkinds'⟩ := htail start (offset + cs.length)
  refine ⟨ts ++ ts', ?_, by rw [List.map_append, hkinds, hkinds']⟩
  have happend := tokens_append hts hsep
  have hrest : tokens none ⟨offset + cs.length, tail⟩ = .ok ts' := hts'
  simp only [Cursor.before, Cursor.total, hrest] at happend
  exact happend

/-- Where a text stands does not matter. -/
theorem of_tokens {cs : List Char} {ts : List Token} (h : tokens none ⟨0, cs⟩ = .ok ts) :
    Spells false cs (ts.map Token.kind) := by
  intro start offset
  refine ⟨ts.map (Token.shift offset), ?_, by simp [Token.shift]⟩
  have hshift := tokens_shift offset none ⟨0, cs⟩
  simp only [h, shifted, Cursor.shift, Nat.zero_add] at hshift
  exact hshift

/-- A character that is a token of its own. -/
theorem sign {c : Char} {cs : List Char} {k : Token.Kind} {ks : List Token.Kind}
    (hsign : sign? c = some k) (h : Spells k.opensRange cs ks) :
    Spells false (c :: cs) (k :: ks) := by
  refine step ?_ (fun _ offset => ⟨offset, offset + 1, ?_⟩) h
  · unfold sign? at hsign
    split at hsign <;> cases hsign <;> rfl
  · exact queryToken_eq_ok_iff.mpr (.sign hsign)

/-- The end of a range. -/
theorem closing {includeUpper : Bool} {cs : List Char} {ks : List Token.Kind}
    (h : Spells false cs ks) :
    Spells true ((if includeUpper then ']' else '}') :: cs)
      ((if includeUpper then .rightBracket else .rightBrace) :: ks) := by
  refine step ?_ (fun start offset => ⟨start, offset + 1, ?_⟩) h
  · cases includeUpper <;> decide
  · cases includeUpper <;> rfl

end Spells

/-! ## Words -/

/-- Whether a text starts like a word and not like an operator. -/
def opensWord : List Char → Bool
  | [] => false
  | c :: _ => !(['+', '-', '!', '&', '|'].contains c)

/-- The first character of a written text does not end it. -/
theorem Writes.head {ends : Char → Bool} {c : Char} {cs : List Char} {us : List (Bool × Char)}
    (h : Writes ends (c :: cs) us) (hslash : ends '\\' = false) : ends c = false := by
  cases h with
  | plain inside => exact inside
  | escaped => exact hslash
  | unicode => exact hslash

theorem sign?_of_opensWord {c : Char} {cs : List Char} (h : opensWord (c :: cs) = true)
    (hc : endsWord false c = false) : sign? c = none := by
  have hbracket : c ≠ '(' ∧ c ≠ ')' ∧ c ≠ '[' ∧ c ≠ ']' ∧ c ≠ '{' ∧ c ≠ '}' := by
    refine ⟨?_, ?_, ?_, ?_, ?_, ?_⟩ <;> rintro rfl <;> exact absurd hc (by decide)
  have hoperator : c ≠ '+' ∧ c ≠ '-' ∧ c ≠ '!' := by
    refine ⟨?_, ?_, ?_⟩ <;> rintro rfl <;> simp [opensWord] at h
  simp [sign?, hbracket, hoperator]

/-- A written text that starts like a word starts one. -/
theorem Writes.startsWord {c : Char} {cs : List Char} {us : List (Bool × Char)}
    (h : Writes (endsWord false) (c :: cs) us) (hopens : opensWord (c :: cs) = true)
    (rest : List Char) : StartsWord c rest := by
  have hc : endsWord false c = false := h.head (by decide)
  refine ⟨sign?_of_opensWord hopens hc, ?_, ?_, ?_, ?_⟩
  · rintro kind ⟨⟩ <;> exact absurd hopens (by simp [opensWord])
  · rintro rfl
    exact absurd hc (by decide)
  · rintro make ⟨⟩ <;> exact absurd hc (by decide)
  · rintro rfl
    exact absurd hc (by decide)

namespace Spells

/-- A word alone. -/
theorem word {cs : List Char} {us : List (Bool × Char)} (h : Writes (endsWord false) cs us)
    (hopens : opensWord cs = true) : Spells false cs [(Word.ofUnits us).queryKind] := by
  cases cs with
  | nil => cases hopens
  | cons c cs =>
    have hc : endsWord false c = false := h.head (by decide)
    refine step ?_ (fun start offset => ⟨start, offset + (cs.length + 1), ?_⟩) nil
    · simp only [endsWord, Bool.or_eq_false_iff] at hc
      exact hc.1.1
    · have hend : endsWordAt false [] = true := rfl
      have hread := word_of_writes h hend offset
      rw [List.append_nil] at hread
      exact queryToken_eq_ok_iff.mpr (.word (h.startsWord hopens cs) hread (by simp))

/-- A field name and what follows its colon. -/
theorem field {cs tail : List Char} {us : List (Bool × Char)} {ks : List Token.Kind}
    (h : Writes (endsWord false) cs us) (hopens : opensWord cs = true)
    (htail : Spells false tail ks) :
    Spells false (cs ++ ':' :: tail) (.field (String.ofList (us.map Prod.snd)) :: ks) := by
  cases cs with
  | nil => cases hopens
  | cons c cs =>
    have hc : endsWord false c = false := h.head (by decide)
    refine step ?_ (fun start offset => ⟨start, offset + (cs.length + 1) + 1, ?_⟩) htail
    · simp only [endsWord, Bool.or_eq_false_iff] at hc
      exact hc.1.1
    · have hend : endsWordAt false (':' :: tail) = true := rfl
      have hread := word_of_writes h hend offset
      have hstep := QueryStep.field (h.startsWord hopens _) hread rfl
      rw [Word.text_ofUnits] at hstep
      exact queryToken_eq_ok_iff.mpr hstep

/-- A bound of a range, or the word between two of them. -/
theorem bound {cs tail : List Char} {us : List (Bool × Char)} {ks : List Token.Kind}
    (h : Writes (endsWord true) cs us) (nonempty : cs ≠ []) (hend : endsWordAt true tail = true)
    (htail : Spells true tail ks) :
    Spells true (cs ++ tail) ((Word.ofUnits us).rangeKind :: ks) := by
  obtain ⟨c, cs, rfl⟩ := List.exists_cons_of_ne_nil nonempty
  have hc : endsWord true c = false := h.head (by decide)
  refine step ?_ (fun start offset => ⟨start, offset + (cs.length + 1), ?_⟩) htail
  · simp only [endsWord, Bool.or_eq_false_iff] at hc
    exact hc.1.1
  · have hword := word_of_writes h hend offset
    have hinside : ∀ kind, ¬ ClosingSign c kind := by
      rintro kind ⟨⟩ <;> exact absurd hc (by decide)
    have hquote : c ≠ '"' := by
      rintro rfl
      exact absurd hc (by decide)
    exact rangeToken_eq_ok_iff.mpr (.word hinside hquote hword)

/-- A quoted text alone. -/
theorem quoted {cs : List Char} {us : List (Bool × Char)} (h : Writes (· == '"') cs us) :
    Spells false ('"' :: (cs ++ ['"'])) [.phrase (String.ofList (us.map Prod.snd))] := by
  refine step (by decide)
    (fun start offset => ⟨start, offset + 1 + cs.length + 1, ?_⟩) nil
  have hread := quoted_of_writes h offset (offset + 1) []
  exact queryToken_eq_ok_iff.mpr (.phrase rfl hread)

end Spells

/-! ## Numbers -/

/-- A numeral up to the end of the text. -/
theorem number_of_isNumeral {cs : List Char} {d : Number.Decimal} (h : Number.IsNumeral cs)
    (hread : Number.Decimal.read? cs = some d) (hfinite : (Single.ofDecimal d).isFinite = true)
    (offset : Nat) :
    number ⟨offset, cs⟩ = .ok (some (Single.ofDecimal d), ⟨offset + cs.length, []⟩) := by
  obtain ⟨c, rest, rfl, hc, hrest⟩ := h
  have htake : (c :: rest).takeWhile (fun c => c.isDigit || c == '.') = c :: rest := by
    refine List.takeWhile_eq_self_iff.mpr fun d hd => ?_
    rcases List.mem_cons.mp hd with rfl | hd
    · simp [hc]
    · exact hrest d hd
  simp [number, startsNumber, hc, htake, hread, hfinite]

namespace Spells

/-- A number behind its sign. -/
theorem numbered {c : Char} {make : Option Single → Token.Kind} {cs : List Char}
    {d : Number.Decimal} (sign : NumberSign c make) (h : Number.IsNumeral cs)
    (hread : Number.Decimal.read? cs = some d) (hfinite : (Single.ofDecimal d).isFinite = true) :
    Spells false (c :: cs) [make (some (Single.ofDecimal d))] := by
  have hblank : isBlank c = false := by cases sign <;> decide
  refine step hblank (fun start offset => ⟨start, offset + 1 + cs.length, ?_⟩) nil
  have hnumber := number_of_isNumeral h hread hfinite (offset + 1)
  exact queryToken_eq_ok_iff.mpr (.number sign hnumber)

end Spells

end SearchQuery.Lexer
