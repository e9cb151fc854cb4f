import Mathlib.Data.List.Forall2
import SearchQuery.Proofs.Lexer.Escaping

/-!
Every spelling of a word is decoded. Each character of a text is written on its own: as itself, if
nothing bars it, behind a backslash, or as the four digits of its code point. Main statement: a word
spelled in any of these ways is one term, and a quoted text one phrase, with the text that was
spelled.
-/

namespace SearchQuery

open Text (isBlank isHexDigit hexValue scalar? scalar?_toNat)

namespace Lexer

/-! ## Spellings -/

/-- The ways to write a character. The letter `u` has none behind a backslash, where it announces
the digits of a code point. -/
inductive CharSpelling (barred : Char → Bool) (c : Char) : List Char → Prop
  | itself (allowed : barred c = false) : CharSpelling barred c [c]
  | escaped (short : c ≠ 'u') : CharSpelling barred c ['\\', c]
  | coded {digits : List Char} (four : digits.length = 4) (hex : digits.all isHexDigit = true)
      (code : hexValue digits = c.toNat) : CharSpelling barred c ('\\' :: 'u' :: digits)

/-- A text is written character by character, each of them in one of the ways. -/
def SpelledAs (barred : Char → Bool) (text written : List Char) : Prop :=
  ∃ pieces, List.Forall₂ (CharSpelling barred) text pieces ∧ pieces.flatten = written

/-- The characters that a word cannot have as themselves. -/
def barsWord (c : Char) : Bool :=
  isBlank c || ['\\', '(', ')', '"', '^', '~', ':', '[', ']', '{', '}', '*', '?'].contains c

/-- Whether a text starts with the sign of an operator. -/
def opensOperator (cs : List Char) : Bool := cs.head?.any ['+', '-', '!', '&', '|'].contains

/-- The characters that a quoted text cannot have as themselves. -/
def barsQuoted (c : Char) : Bool := c == '"' || c == '\\'

theorem endsWord_of_not_barsWord {c : Char} (h : barsWord c = false) :
    (endsWord false c = false ∧ c ≠ '\\') ∧ isWild c = false := by
  simp only [barsWord, Bool.or_eq_false_iff] at h
  simp_all [endsWord, isWild]

/-- What is written character by character can be read, and a character that is not escaped is one
that nothing bars. -/
theorem SpelledAs.exists_writes {barred ends : Char → Bool} {text written : List Char}
    (h : SpelledAs barred text written)
    (hbars : ∀ c, barred c = false → ends c = false ∧ c ≠ '\\') :
    ∃ us, Writes ends written us ∧ us.map Prod.snd = text ∧
      ∀ u ∈ us, u.1 = false → barred u.2 = false := by
  obtain ⟨pieces, hpieces, rfl⟩ := h
  induction hpieces with
  | nil => exact ⟨[], .nil, rfl, by simp⟩
  | @cons c piece text pieces hpiece _ ih =>
    obtain ⟨us, hwrites, htext, hallowed⟩ := ih
    rw [List.flatten_cons]
    cases hpiece with
    | itself allowed =>
      obtain ⟨inside, literal⟩ := hbars c allowed
      refine ⟨(false, c) :: us, .plain inside literal hwrites, by simp [htext], ?_⟩
      rw [List.forall_mem_cons]
      exact ⟨fun _ => allowed, hallowed⟩
    | escaped short =>
      refine ⟨(true, c) :: us, .escaped short hwrites, by simp [htext], ?_⟩
      rw [List.forall_mem_cons]
      exact ⟨by simp, hallowed⟩
    | coded four hex code =>
      have hscalar : scalar? (hexValue _) = some c := code ▸ scalar?_toNat c
      refine ⟨(true, c) :: us, ?_, by simp [htext], ?_⟩
      · exact .unicode four (List.all_eq_true.mp hex) hscalar hwrites
      · rw [List.forall_mem_cons]
        exact ⟨by simp, hallowed⟩

/-- What is written of a text that is not empty opens a word, unless it opens an operator. -/
theorem Writes.opensWord_of_leading {ends : Char → Bool} {cs : List Char} {us : List (Bool × Char)}
    (h : Writes ends cs us) (nonempty : us.map Prod.snd ≠ []) (leading : opensOperator cs = false) :
    opensWord cs = true := by
  cases cs with
  | nil =>
    cases h
    exact absurd rfl nonempty
  | cons c cs => simpa [opensOperator, opensWord] using leading

/-- A text in which nothing is escaped is written as it is. -/
theorem Writes.eq_of_not_escaped {ends : Char → Bool} {cs : List Char} {us : List (Bool × Char)}
    (h : Writes ends cs us) (plain : us.any Prod.fst = false) : cs = us.map Prod.snd := by
  induction h with
  | nil => rfl
  | plain _ _ _ ih => rw [List.map_cons, ← ih (by simpa using plain)]
  | escaped => simp at plain
  | unicode => simp at plain

/-! ## Tokens -/

/-- A token alone stands where its text starts. -/
theorem Spells.tokens_eq {c : Char} {cs : List Char} {k : Token.Kind} (hc : isBlank c = false)
    (h : Spells false (c :: cs) [k]) : tokens none ⟨0, c :: cs⟩ = .ok [⟨k, 0⟩] := by
  obtain ⟨ts, hts, hkinds⟩ := h 0 0
  have hskip := skipBlanks_of_not_blank hc 0 cs
  have hrest : (skipBlanks ⟨0, c :: cs⟩).rest = c :: cs := by rw [hskip]
  have hread : tokens none ⟨0, c :: cs⟩ = .ok ts := hts
  obtain ⟨t, rfl, rfl⟩ : ∃ t : Token, ts = [t] ∧ t.kind = k := by
    simpa [List.map_eq_cons_iff] using hkinds
  rw [hread]
  rw [tokens_of_cons hrest, hskip] at hread
  cases hstep : token none 0 c cs with
  | error e =>
    rw [hstep] at hread
    cases hread
  | ok step =>
    rw [hstep] at hread
    obtain ⟨rest, -, heq⟩ := Except.map_eq_ok_iff.mp hread
    cases heq
    rfl

/-- A word alone is one token. -/
theorem Writes.tokens_eq {cs : List Char} {us : List (Bool × Char)}
    (h : Writes (endsWord false) cs us) (hopens : opensWord cs = true) :
    tokens none ⟨0, cs⟩ = .ok [⟨(Word.ofUnits us).queryKind, 0⟩] := by
  cases cs with
  | nil => cases hopens
  | cons c cs =>
    have hc : endsWord false c = false := h.head (by decide)
    simp only [endsWord, Bool.or_eq_false_iff] at hc
    exact (Spells.word h hopens).tokens_eq hc.1.1

/-- A word that is no keyword as it is written, and in which `*` and `?` are escaped, is a term. -/
theorem Writes.queryKind_eq {cs : List Char} {us : List (Bool × Char)}
    (h : Writes (endsWord false) cs us) (unreserved : isKeyword (String.ofList cs) = false)
    (literal : ∀ u ∈ us, u.1 = false → isWild u.2 = false) :
    (Word.ofUnits us).queryKind = .term (String.ofList (us.map Prod.snd)) := by
  have hkeyword : isKeyword (String.ofList (Word.ofUnits us).text) = true →
      (Word.ofUnits us).escaped = true := by
    intro hkeyword
    rw [Word.text_ofUnits] at hkeyword
    rw [Word.escaped_ofUnits]
    -- Without an escape the word would be the keyword itself.
    by_contra hplain
    rw [← h.eq_of_not_escaped (by simpa using hplain), unreserved] at hkeyword
    cases hkeyword
  have hplain : (Word.ofUnits us).wildcard = false := by
    rw [Word.wildcard_ofUnits, List.any_eq_false]
    intro u hu hwild
    simp only [Bool.and_eq_true, Bool.not_eq_true'] at hwild
    rw [literal u hu hwild.1] at hwild
    cases hwild.2
  rw [Word.queryKind_of_not_isKeyword hkeyword, Word.plainKind, hplain, Word.text_ofUnits]
  rfl

end Lexer

open Lexer (SpelledAs Writes Spells barsWord barsQuoted opensOperator isWild)

/-- However the characters of a word are spelled, it is one term, unless it opens with the sign of an
operator or is a keyword; and a quoted text is one phrase. -/
theorem tokenize_of_spelledAs :
    (∀ text written : String, text ≠ "" → SpelledAs barsWord text.toList written.toList →
      opensOperator written.toList = false → isKeyword written = false →
      tokenize written = .ok [⟨.term text, 0⟩]) ∧
    ∀ text written : String, SpelledAs barsQuoted text.toList written.toList →
      tokenize ("\"" ++ written ++ "\"") = .ok [⟨.phrase text, 0⟩] := by
  constructor
  · intro text written nonempty hspelled leading unreserved
    obtain ⟨us, hwrites, htext, hallowed⟩ :=
      hspelled.exists_writes fun c hc => (Lexer.endsWord_of_not_barsWord hc).1
    have hliteral : ∀ u ∈ us, u.1 = false → isWild u.2 = false := fun u hu hplain =>
      (Lexer.endsWord_of_not_barsWord (hallowed u hu hplain)).2
    have hopens := hwrites.opensWord_of_leading (by simpa [htext] using nonempty) leading
    have hkind := hwrites.queryKind_eq (by rwa [String.ofList_toList]) hliteral
    rw [htext, String.ofList_toList] at hkind
    rw [tokenize, hwrites.tokens_eq hopens, hkind]
  · intro text written hspelled
    have hbars : ∀ c, barsQuoted c = false → (c == '"') = false ∧ c ≠ '\\' := by
      intro c hc
      simpa [barsQuoted] using hc
    obtain ⟨us, hwrites, htext, -⟩ := hspelled.exists_writes hbars
    have hquoted : Spells false ('"' :: (written.toList ++ ['"'])) _ := Spells.quoted hwrites
    rw [htext, String.ofList_toList] at hquoted
    have hchars : ("\"" ++ written ++ "\"").toList = '"' :: (written.toList ++ ['"']) := by simp
    rw [tokenize, hchars]
    exact hquoted.tokens_eq (by decide)

/-- A word that opens with a sign, with digits after a code point and a sign of patterns, a keyword
spelled in part, and a quoted text with both ways to write a quote. -/
theorem tokenize_of_spelledAs_mixed :
    SpelledAs barsWord "+éF*".toList "\\+\\u00E9F\\*".toList ∧
      tokenize "\\+\\u00E9F\\*" = .ok [⟨.term "+éF*", 0⟩] ∧
      SpelledAs barsWord "OR".toList "\\u004fR".toList ∧
      tokenize "\\u004fR" = .ok [⟨.term "OR", 0⟩] ∧
      SpelledAs barsQuoted "(\"\"*".toList "(\\\"\\u0022*".toList ∧
      tokenize "\"(\\\"\\u0022*\"" = .ok [⟨.phrase "(\"\"*", 0⟩] := by
  have hsign : SpelledAs barsWord "+éF*".toList "\\+\\u00E9F\\*".toList :=
    ⟨["\\+".toList, "\\u00E9".toList, "F".toList, "\\*".toList],
      .cons (.escaped (by decide)) <| .cons (.coded rfl (by decide) (by decide)) <|
        .cons (.itself (by decide)) <| .cons (.escaped (by decide)) .nil, by decide⟩
  have hkeyword : SpelledAs barsWord "OR".toList "\\u004fR".toList :=
    ⟨["\\u004f".toList, "R".toList],
      .cons (.coded rfl (by decide) (by decide)) <| .cons (.itself (by decide)) .nil, by decide⟩
  have hquotes : SpelledAs barsQuoted "(\"\"*".toList "(\\\"\\u0022*".toList :=
    ⟨["(".toList, "\\\"".toList, "\\u0022".toList, "*".toList],
      .cons (.itself (by decide)) <| .cons (.escaped (by decide)) <|
        .cons (.coded rfl (by decide) (by decide)) <| .cons (.itself (by decide)) .nil, by decide⟩
  refine ⟨hsign, ?_, hkeyword, ?_, hquotes, ?_⟩
  · exact tokenize_of_spelledAs.1 _ _ (by decide) hsign (by decide) (by decide)
  · exact tokenize_of_spelledAs.1 _ _ (by decide) hkeyword (by decide) (by decide)
  · exact tokenize_of_spelledAs.2 _ _ hquotes

end SearchQuery
