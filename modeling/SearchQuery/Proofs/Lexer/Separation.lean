import SearchQuery.Proofs.Lexer.Append

/-!
White space keeps texts apart. Nothing that the lexer looks ahead for reaches over it: neither an
open range or quote nor an escape, a doubled sign, a number or the colon after a word. Main
statement: two texts with white space between them have the tokens of the first one and then those
of the second one, further on, and an error of the second one stays an error.
-/

namespace SearchQuery

open Text (isBlank)

namespace Lexer

theorem separates_of_isBlank {c : Char} (h : isBlank c = true) (rest : List Char) :
    separates (c :: rest) = true := by
  have hcolon : c ≠ ':' := by
    rintro rfl
    cases h
  simp [separates, endsWord, h, hcolon]

/-- White space at the start of a text is skipped. -/
theorem tokens_blanks_append {range : Option Nat} {blanks : List Char}
    (h : ∀ c ∈ blanks, isBlank c = true) (offset : Nat) (rest : List Char) :
    tokens range ⟨offset, blanks ++ rest⟩ = tokens range ⟨offset + blanks.length, rest⟩ := by
  have hblank : (skipBlanks ⟨offset, blanks⟩).rest = [] := List.dropWhile_eq_nil_iff.mpr h
  exact tokens_congr (skipBlanks_append_of_blank hblank rest)

end Lexer

/-- A text is cut the same way wherever it stands. -/
theorem tokens_eq_shifted_tokenize (k : Nat) (text : String) :
    Lexer.tokens none ⟨k, text.toList⟩ =
      Lexer.shifted k (List.map (Token.shift k)) (tokenize text) := by
  have hshift := Lexer.tokens_shift k none ⟨0, text.toList⟩
  rwa [Lexer.Cursor.shift, Nat.zero_add] at hshift

/-- White space between two texts keeps their tokens apart. The tokens and the errors of the second
text are those that it has alone, moved by the characters before it. -/
theorem tokenize_append_blanks_append {a blanks : String} (b : String) {ts : List Token}
    (separated : blanks ≠ "") (blank : ∀ c ∈ blanks.toList, isBlank c = true)
    (first : tokenize a = .ok ts) :
    (∀ us, tokenize b = .ok us →
      tokenize (a ++ blanks ++ b) = .ok (ts ++ us.map (Token.shift (a ++ blanks).length))) ∧
    ∀ e, tokenize b = .error e →
      tokenize (a ++ blanks ++ b) = .error (e.shift (a ++ blanks).length) := by
  obtain ⟨c, cs, hblanks⟩ : ∃ c cs, blanks.toList = c :: cs :=
    List.exists_cons_of_ne_nil (by simpa using separated)
  have hsep : Lexer.separates (blanks.toList ++ b.toList) = true := by
    rw [hblanks, List.cons_append]
    exact Lexer.separates_of_isBlank (blank c (by simp [hblanks])) _
  have hwhole : tokenize (a ++ blanks ++ b) =
      (Lexer.shifted (a ++ blanks).length (List.map (Token.shift (a ++ blanks).length))
        (tokenize b)).map (ts ++ ·) := by
    have happend := Lexer.tokens_append first hsep
    rw [Lexer.tokens_blanks_append blank, tokens_eq_shifted_tokenize] at happend
    simpa [tokenize, Lexer.Cursor.before, Lexer.Cursor.total, String.length_toList] using happend
  constructor
  · intro us hus
    rw [hwhole, hus]
    rfl
  · intro e he
    rw [hwhole, he]
    rfl

/-- An ampersand on either side of white space does not make a conjunction, and a quote that is not
closed is reported where it stands in the whole text. -/
theorem tokenize_append_blanks_append_ampersands :
    tokenize ("a &" ++ "\t " ++ "& b") =
        .ok [⟨.term "a", 0⟩, ⟨.term "&", 2⟩, ⟨.term "&", 5⟩, ⟨.term "b", 7⟩] ∧
      tokenize ("a &" ++ "\t " ++ "& \"b") = .error (.unterminatedQuote 7) := by
  have hblank : ∀ c ∈ "\t ".toList, isBlank c = true := List.all_eq_true.mp (by decide)
  have hfirst : tokenize "a &" = .ok [⟨.term "a", 0⟩, ⟨.term "&", 2⟩] := by decide +kernel
  have hsecond : tokenize "& b" = .ok [⟨.term "&", 0⟩, ⟨.term "b", 2⟩] := by decide +kernel
  have hopen : tokenize "& \"b" = .error (.unterminatedQuote 2) := by decide +kernel
  have hb := tokenize_append_blanks_append "& b" (by decide) hblank hfirst
  have hquote := tokenize_append_blanks_append "& \"b" (by decide) hblank hfirst
  exact ⟨hb.1 _ hsecond, hquote.2 _ hopen⟩

end SearchQuery
