import SearchQuery.Proofs.Lexer.Decoding

/-!
What each way of escaping is read back as, for every text. A word with `*` or `?` is a pattern, in
which the backslashes that were literal stay escaped; before a colon it is a field name all the
same. Main statement: `tokenize_escaped`.
-/

namespace SearchQuery

open Text (isBlank)

namespace Lexer

theorem patternUnit_isReserved (first : Bool) (c : Char) :
    patternUnit (isReserved false first c, c) = if c = '\\' then ['\\', c] else [c] := by
  apply patternUnit_of_escapes
  · rfl
  · cases first <;> decide
  · cases first <;> decide

/-- A rendered word with `*` or `?` is a pattern with its backslashes doubled. -/
theorem Spells.wildTerm {text : String} (wild : text.toList.any isWild = true) :
    Spells false (escapeTerm false text) [.wildcard (String.ofList (doubled text.toList))] := by
  have hkeyword := not_isKeyword_of_isWild wild
  have nonempty : text ≠ "" := by
    rintro rfl
    exact absurd wild (by decide)
  obtain ⟨c, cs, hcs⟩ : ∃ c cs, text.toList = c :: cs :=
    List.exists_cons_of_ne_nil (by simpa using nonempty)
  have hopens := @opensWord_escapeTerm false text nonempty
  rw [escapeTerm, if_neg hkeyword, hcs] at hopens ⊢
  rw [hcs] at wild
  have hwrites : Writes (endsWord false) (escapeChars false (c :: cs)) _ :=
    .escapeChar (by simp) (writes_flatMap_escapeChar cs)
  have hspells := word hwrites hopens
  generalize hunits : (isReserved false true c, c) ::
    cs.map (fun d => (isReserved false false d, d)) = us at hspells
  have htext : us.map Prod.snd = text.toList := by
    simp [← hunits, hcs, Function.comp_def]
  have hwild : (Word.ofUnits us).wildcard = true := by
    rw [Word.wildcard_ofUnits, ← wild, ← hunits, List.any_cons, List.any_cons, List.any_map]
    exact congrArg₂ (· || ·) (isOpenWild_isReserved _ _ c)
      (congrArg _ (funext fun d => isOpenWild_isReserved _ _ d))
  have hpattern : (Word.ofUnits us).pattern = doubled (c :: cs) := by
    rw [Word.pattern_ofUnits, ← hunits, doubled, List.flatMap_cons, List.flatMap_cons,
      patternUnit_isReserved, List.flatMap_map]
    exact congrArg _ (congrArg (List.flatMap · cs) (funext fun d => patternUnit_isReserved _ d))
  have hkind : (Word.ofUnits us).queryKind = .wildcard (String.ofList (doubled (c :: cs))) := by
    rw [Word.queryKind_of_not_isKeyword, Word.plainKind, if_pos hwild, hpattern]
    intro hk
    rw [Word.text_ofUnits, htext, String.ofList_toList] at hk
    exact absurd hk hkeyword
  rwa [hkind] at hspells

/-- A rendered word does not start with white space. -/
theorem exists_head_escapeTerm (pattern : Bool) {text : String} (nonempty : text ≠ "") :
    ∃ c, (escapeTerm pattern text).head? = some c ∧ isBlank c = false := by
  obtain ⟨c, cs, hcs⟩ : ∃ c cs, text.toList = c :: cs :=
    List.exists_cons_of_ne_nil (by simpa using nonempty)
  rw [escapeTerm, hcs, escapeChars]
  split
  · exact ⟨'\\', rfl, by decide⟩
  · cases hr : isReserved pattern true c with
    | true => exact ⟨'\\', by simp [escapeChar, hr], by decide⟩
    | false =>
      have hends := endsWord_of_not_isReserved hr
      simp only [endsWord, Bool.or_eq_false_iff] at hends
      exact ⟨c, by simp [escapeChar, hr], hends.1.1⟩

/-- A text that is one token has it at its start, unless white space stands there. -/
theorem Spells.tokenize_eq {cs : List Char} {k : Token.Kind} (h : Spells false cs [k]) {c : Char}
    (hc : cs.head? = some c) (hblank : isBlank c = false) :
    tokenize (String.ofList cs) = .ok [⟨k, 0⟩] := by
  obtain ⟨rest, rfl⟩ := List.head?_eq_some_iff.mp hc
  rw [tokenize, String.toList_ofList]
  exact h.tokens_eq hblank

end Lexer

open Lexer (isWild isPattern doubled phraseText Spells)

/-- A word is read back as the term it was escaped from, or as a pattern if it has `*` or `?`, and as
a field name before a colon; a pattern is read back as it was, and so are the terms of a phrase. -/
theorem tokenize_escaped :
    (∀ text : String, text ≠ "" →
      (text.toList.any isWild = false →
        tokenize (String.ofList (escapeTerm false text)) = .ok [⟨.term text, 0⟩]) ∧
      (text.toList.any isWild = true →
        tokenize (String.ofList (escapeTerm false text)) =
          .ok [⟨.wildcard (String.ofList (doubled text.toList)), 0⟩]) ∧
      tokenize (String.ofList (escapeTerm false text ++ [':'])) = .ok [⟨.field text, 0⟩]) ∧
    (∀ pattern : String, isPattern pattern = true →
      tokenize (String.ofList (escapeTerm true pattern)) = .ok [⟨.wildcard pattern, 0⟩]) ∧
    ∀ terms : List String,
      tokenize (String.ofList ('"' :: ([' '].intercalate (terms.map escapePhraseTerm) ++ ['"']))) =
        .ok [⟨.phrase (phraseText terms), 0⟩] := by
  refine ⟨fun text nonempty => ?_, fun pattern hpattern => ?_, fun terms => ?_⟩
  · obtain ⟨c, hc, hblank⟩ := Lexer.exists_head_escapeTerm false nonempty
    refine ⟨fun plain => ?_, fun wild => ?_, ?_⟩
    · exact (Spells.term nonempty plain).tokenize_eq hc hblank
    · exact (Spells.wildTerm wild).tokenize_eq hc hblank
    · exact (Spells.fieldName nonempty .nil).tokenize_eq (by simp [hc]) hblank
  · have nonempty : pattern ≠ "" := by
      rintro rfl
      exact absurd hpattern (by decide)
    obtain ⟨c, hc, hblank⟩ := Lexer.exists_head_escapeTerm true nonempty
    exact (Spells.pattern hpattern).tokenize_eq hc hblank
  · exact (Spells.phrase terms).tokenize_eq rfl (by decide)

/-- A word with an operator's sign, a backslash and a `*`, a keyword, a pattern with an escape of its
own, and a phrase with a quote and an empty term. -/
theorem tokenize_escaped_assorted :
    tokenize "\\+a\\\\*" = .ok [⟨.wildcard "+a\\\\*", 0⟩] ∧
      tokenize "\\+a\\\\*:" = .ok [⟨.field "+a\\*", 0⟩] ∧
      tokenize "\\NOT" = .ok [⟨.term "NOT", 0⟩] ∧
      tokenize "\\*\\(?" = .ok [⟨.wildcard "\\*(?", 0⟩] ∧
      tokenize "\"\\\" \"" = .ok [⟨.phrase "\" ", 0⟩] := by
  have hword := tokenize_escaped.1 "+a\\*" (by decide)
  have hkeyword := tokenize_escaped.1 "NOT" (by decide)
  refine ⟨hword.2.1 (by decide), hword.2.2, hkeyword.1 (by decide), ?_, ?_⟩
  · exact tokenize_escaped.2.1 "\\*(?" (by decide)
  · exact tokenize_escaped.2.2 ["\"", ""]

end SearchQuery
