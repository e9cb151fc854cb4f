import SearchQuery.Proofs.Lexer.Cases
import SearchQuery.Proofs.Lexer.Escaping
import SearchQuery.Proofs.Number.Product

/-!
What holds of every token that is read: words are not empty, the backslashes of a pattern escape its
signs, and the numbers behind `^` and `~` are finite and have no sign. Each step reads such a token,
and so does the whole run.
-/

namespace SearchQuery

open Number (Single)

namespace Token.Kind

/-- What a token of a text satisfies. -/
def Sound : Kind → Prop
  | .field name => name ≠ ""
  | .wildcard pattern => pattern ≠ ""
  | .caret (some value) => value.isUnsigned = true
  | _ => True

/-- What a token says: a word has characters, a pattern has an open `*` or `?` and no backslash that
escapes anything but its signs, and a number is finite and has no sign. -/
def WellFormed : Kind → Prop
  | .term text => text ≠ ""
  | .field name => name ≠ ""
  | .wildcard pattern => pattern ≠ "" ∧ Lexer.isPattern pattern = true
  | .caret (some value) => value.isUnsigned = true
  | .tilde (some value) => value.isUnsigned = true
  | _ => True

theorem WellFormed.sound {k : Kind} (h : k.WellFormed) : k.Sound := by
  cases k with
  | field => exact h
  | wildcard => exact h.1
  | caret value =>
    cases value with
    | none => trivial
    | some => exact h
  | _ => trivial

end Token.Kind

namespace Lexer

open Text (isBlank)

/-! ## Words -/

/-- A word that starts with a character of words has a character. -/
theorem word_ne_nil {inRange : Bool} {offset : Nat} {c : Char} {rest : List Char} {w : Word}
    {next : Cursor} (hc : endsWord inRange c = false)
    (h : word inRange ⟨offset, c :: rest⟩ = .ok (w, next)) : w.text ≠ [] ∧ w.pattern ≠ [] := by
  rw [word_cons, hc, if_neg (by simp)] at h
  by_cases hslash : c = '\\'
  · rw [if_pos hslash] at h
    split at h
    · cases h
    · obtain ⟨⟨w', last⟩, -, heq⟩ := Except.map_eq_ok_iff.mp h
      cases heq
      refine ⟨by simp [Word.consEscaped], ?_⟩
      simp only [Word.consEscaped]
      split <;> simp
  · rw [if_neg hslash] at h
    obtain ⟨⟨w', last⟩, -, heq⟩ := Except.map_eq_ok_iff.mp h
    cases heq
    exact ⟨by simp [Word.cons], by simp [Word.cons]⟩

theorem patternUnits?_cons_of_ne {c : Char} (h : c ≠ '\\') (cs : List Char) :
    patternUnits? (c :: cs) = (patternUnits? cs).map ((false, c) :: ·) := by
  rw [patternUnits?.eq_def]
  exact if_neg h

theorem patternUnits?_slash_cons {c : Char} (h : Word.isPatternSign c = true) (cs : List Char) :
    patternUnits? ('\\' :: c :: cs) = (patternUnits? cs).map ((true, c) :: ·) := by
  simp [patternUnits?, h]

/-- The pattern of a word has an escape only where one is needed, and it has an open `*` or `?` if
the word has. -/
theorem word_patternUnits? {inRange : Bool} {here : Cursor} {w : Word} {next : Cursor}
    (h : word inRange here = .ok (w, next)) :
    ∃ us, patternUnits? w.pattern = some us ∧ us.any isOpenWild = w.wildcard := by
  fun_induction word inRange here generalizing w next with
  | case1 =>
    cases h
    exact ⟨[], rfl, rfl⟩
  | case2 =>
    cases h
    exact ⟨[], rfl, rfl⟩
  | case3 => cases h
  | case4 offset rest e mid hmid _ _ ih =>
    obtain ⟨⟨w', last⟩, hw, heq⟩ := Except.map_eq_ok_iff.mp h
    cases heq
    obtain ⟨us, hunits, hopen⟩ := ih hw
    cases hsign : Word.isPatternSign e with
    | true =>
      refine ⟨(true, e) :: us, ?_, by simp [isOpenWild, hopen, Word.consEscaped]⟩
      simp [Word.consEscaped, hsign, patternUnits?_slash_cons hsign, hunits]
    | false =>
      -- A sign of patterns would have kept its backslash, so this is no backslash either.
      have hslash : e ≠ '\\' := by
        rintro rfl
        exact absurd hsign (by decide)
      have hwild : isOpenWild (false, e) = false := by
        simp only [Word.isPatternSign, Bool.or_eq_false_iff] at hsign
        simp [isOpenWild, isWild, hsign.1]
      refine ⟨(false, e) :: us, ?_, by simp [hwild, hopen, Word.consEscaped]⟩
      simp [Word.consEscaped, hsign, patternUnits?_cons_of_ne hslash, hunits]
  | case5 offset c rest _ hslash ih =>
    obtain ⟨⟨w', last⟩, hw, heq⟩ := Except.map_eq_ok_iff.mp h
    cases heq
    obtain ⟨us, hunits, hopen⟩ := ih hw
    refine ⟨(false, c) :: us, ?_, ?_⟩
    · simp [Word.cons, patternUnits?_cons_of_ne hslash, hunits]
    · simp only [List.any_cons, hopen, Word.cons, isOpenWild, isWild, Bool.not_false,
        Bool.true_and, Bool.or_assoc, Bool.or_comm]

theorem wellFormed_plainKind {inRange : Bool} {offset : Nat} {c : Char} {rest : List Char}
    {w : Word} {next : Cursor} (hc : endsWord inRange c = false)
    (h : word inRange ⟨offset, c :: rest⟩ = .ok (w, next)) : w.plainKind.WellFormed := by
  obtain ⟨htext, hpattern⟩ := word_ne_nil hc h
  unfold Word.plainKind
  split
  · rename_i hwild
    obtain ⟨us, hunits, hopen⟩ := word_patternUnits? h
    refine ⟨by simpa using hpattern, ?_⟩
    simp [isPattern, hunits, hopen, hwild]
  · simpa [Token.Kind.WellFormed] using htext

theorem number_isUnsigned {here next : Cursor} {value : Single}
    (h : number here = .ok (some value, next)) : value.isUnsigned = true := by
  unfold number at h
  dsimp only at h
  split at h
  · split at h
    · cases h
    · cases h
    · split at h
      · cases h
        exact Single.isUnsigned_ofDecimal ‹_›
      · cases h
  · cases h

/-! ## Steps -/

theorem StartsWord.endsWord_eq_false {c : Char} {rest : List Char} (h : StartsWord c rest)
    (hb : isBlank c = false) : endsWord false c = false := by
  have hcaret : c ≠ '^' := by
    rintro rfl
    exact h.unnumbered _ .caret
  have htilde : c ≠ '~' := by
    rintro rfl
    exact h.unnumbered _ .tilde
  exact endsWord_false_eq_false hb h.unsigned h.unquoted hcaret htilde h.named

theorem QueryStep.wellFormed {offset : Nat} {c : Char} {rest : List Char} {s : Step}
    (h : QueryStep offset c rest s) (hb : isBlank c = false) : s.kind.WellFormed := by
  cases h with
  | sign sign =>
    unfold sign? at sign
    split at sign <;> cases sign <;> trivial
  | double sign => cases sign <;> trivial
  | phrase => trivial
  | @number make value next sign read =>
    cases value with
    | none => cases sign <;> trivial
    | some value =>
      have hvalue := number_isUnsigned read
      cases sign <;> exact hvalue
  | @field w next starts read =>
    have htext : w.text ≠ [] := (word_ne_nil (starts.endsWord_eq_false hb) read).1
    simpa [Token.Kind.WellFormed] using htext
  | word starts read =>
    have hplain := wellFormed_plainKind (starts.endsWord_eq_false hb) read
    unfold Word.queryKind
    repeat' split
    · trivial
    · trivial
    · trivial
    · exact hplain

theorem RangeStep.wellFormed {start offset : Nat} {c : Char} {rest : List Char} {s : Step}
    (h : RangeStep start offset c rest s) (hb : isBlank c = false) : s.kind.WellFormed := by
  cases h with
  | closing sign => cases sign <;> trivial
  | phrase => trivial
  | word inside unquoted read =>
    have hbracket : c ≠ ']' := by
      rintro rfl
      exact inside _ .bracket
    have hbrace : c ≠ '}' := by
      rintro rfl
      exact inside _ .brace
    have hc : endsWord true c = false := by simp_all [endsWord]
    have hplain := wellFormed_plainKind hc read
    unfold Word.rangeKind
    split
    · trivial
    · exact hplain

/-- Every token of a run is well formed. -/
theorem Run.wellFormed {range : Option Nat} {here : Cursor} {ts : List Token}
    (h : Run range here ts) : ∀ t ∈ ts, t.kind.WellFormed := by
  induction h with
  | done => simp
  | @step range here c rest s ts skipped read _ ih =>
    have hb := isBlank_of_skipBlanks skipped
    intro t ht
    rcases List.mem_cons.mp ht with rfl | ht
    · cases range with
      | none => exact (queryToken_eq_ok_iff.mp read).wellFormed hb
      | some start => exact (rangeToken_eq_ok_iff.mp read).wellFormed hb
    · exact ih t ht

/-- Every token of a text is sound. -/
theorem tokens_sound {range : Option Nat} {here : Cursor} {ts : List Token}
    (h : tokens range here = .ok ts) : ∀ t ∈ ts, t.kind.Sound := by
  intro t ht
  exact ((Run.of_tokens h).wellFormed t ht).sound

end Lexer

end SearchQuery
