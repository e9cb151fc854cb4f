import SearchQuery.Token.Lexer

/-!
What the next token can be. Main statements: outside of ranges and in them, a step is taken exactly
if one of a few rules gives it, and the tokens of a text come from a run of such steps.
-/

namespace SearchQuery.Lexer

open Number (Single)

/-- The signs that are written twice, and the tokens that they make. -/
inductive DoubleSign : Char → Token.Kind → Prop
  | and : DoubleSign '&' .and
  | or : DoubleSign '|' .or

/-- The signs that numbers stand behind, and the tokens that they make. -/
inductive NumberSign : Char → (Option Single → Token.Kind) → Prop
  | caret : NumberSign '^' .caret
  | tilde : NumberSign '~' .tilde

/-- The signs that end a range, and the tokens that they make. -/
inductive ClosingSign : Char → Token.Kind → Prop
  | bracket : ClosingSign ']' .rightBracket
  | brace : ClosingSign '}' .rightBrace

/-- Where a word starts outside of ranges: no other rule applies. -/
structure StartsWord (c : Char) (rest : List Char) : Prop where
  unsigned : sign? c = none
  single : ∀ kind, DoubleSign c kind → rest.head? ≠ some c
  unquoted : c ≠ '"'
  unnumbered : ∀ make, ¬ NumberSign c make
  named : c ≠ ':'

/-- The steps outside of ranges. A word before a colon is a field name. -/
inductive QueryStep (offset : Nat) (c : Char) (rest : List Char) : Step → Prop
  | sign {kind : Token.Kind} (sign : sign? c = some kind) :
      QueryStep offset c rest
        ⟨kind, if kind.opensRange then some offset else none, ⟨offset + 1, rest⟩⟩
  | double {kind : Token.Kind} (sign : DoubleSign c kind) (twice : rest.head? = some c) :
      QueryStep offset c rest ⟨kind, none, ⟨offset + 2, rest.tail⟩⟩
  | phrase {text : List Char} {next : Cursor} (quote : c = '"')
      (read : quoted offset ⟨offset + 1, rest⟩ = .ok (text, next)) :
      QueryStep offset c rest ⟨.phrase (String.ofList text), none, next⟩
  | number {make : Option Single → Token.Kind} {value : Option Single} {next : Cursor}
      (sign : NumberSign c make) (read : number ⟨offset + 1, rest⟩ = .ok (value, next)) :
      QueryStep offset c rest ⟨make value, none, next⟩
  | field {w : Word} {next : Cursor} (starts : StartsWord c rest)
      (read : word false ⟨offset, c :: rest⟩ = .ok (w, next))
      (colon : next.rest.head? = some ':') :
      QueryStep offset c rest
        ⟨.field (String.ofList w.text), none, ⟨next.offset + 1, next.rest.tail⟩⟩
  | word {w : Word} {next : Cursor} (starts : StartsWord c rest)
      (read : word false ⟨offset, c :: rest⟩ = .ok (w, next))
      (alone : next.rest.head? ≠ some ':') :
      QueryStep offset c rest ⟨w.queryKind, none, next⟩

/-- The steps in a range that was opened at `start`. -/
inductive RangeStep (start offset : Nat) (c : Char) (rest : List Char) : Step → Prop
  | closing {kind : Token.Kind} (sign : ClosingSign c kind) :
      RangeStep start offset c rest ⟨kind, none, ⟨offset + 1, rest⟩⟩
  | phrase {text : List Char} {next : Cursor} (quote : c = '"')
      (read : quoted offset ⟨offset + 1, rest⟩ = .ok (text, next)) :
      RangeStep start offset c rest ⟨.phrase (String.ofList text), some start, next⟩
  | word {w : Word} {next : Cursor} (inside : ∀ kind, ¬ ClosingSign c kind) (unquoted : c ≠ '"')
      (read : word true ⟨offset, c :: rest⟩ = .ok (w, next)) :
      RangeStep start offset c rest ⟨w.rangeKind, some start, next⟩

theorem QueryStep.of_queryToken {offset : Nat} {c : Char} {rest : List Char} {s : Step}
    (h : queryToken offset c rest = .ok s) : QueryStep offset c rest s := by
  unfold queryToken at h
  split at h
  · rename_i kind hsign
    cases h
    exact .sign hsign
  rename_i hsign
  split at h
  · rename_i hand
    obtain ⟨rfl, htwice⟩ := hand
    cases h
    exact .double .and htwice
  rename_i hand
  split at h
  · rename_i hor
    obtain ⟨rfl, htwice⟩ := hor
    cases h
    exact .double .or htwice
  rename_i hor
  split at h
  · rename_i hquote
    obtain ⟨⟨text, next⟩, hread, heq⟩ := Except.map_eq_ok_iff.mp h
    cases heq
    exact .phrase hquote hread
  rename_i hquote
  split at h
  · rename_i hcaret
    subst hcaret
    obtain ⟨⟨value, next⟩, hread, heq⟩ := Except.map_eq_ok_iff.mp h
    cases heq
    exact .number .caret hread
  rename_i hcaret
  split at h
  · rename_i htilde
    subst htilde
    obtain ⟨⟨value, next⟩, hread, heq⟩ := Except.map_eq_ok_iff.mp h
    cases heq
    exact .number .tilde hread
  rename_i htilde
  split at h
  · cases h
  rename_i hcolon
  have hstarts : StartsWord c rest := by
    refine ⟨hsign, ?_, hquote, ?_, hcolon⟩
    · rintro kind ⟨⟩ htwice
      · exact hand ⟨rfl, htwice⟩
      · exact hor ⟨rfl, htwice⟩
    · rintro make ⟨⟩
      · exact hcaret rfl
      · exact htilde rfl
  obtain ⟨⟨w, next⟩, hread, heq⟩ := Except.map_eq_ok_iff.mp h
  dsimp only at heq
  split at heq <;> cases heq
  · exact .field hstarts hread ‹_›
  · exact .word hstarts hread ‹_›

/-- At the start of a word, a word is read. -/
theorem StartsWord.queryToken_eq {c : Char} {rest : List Char} (h : StartsWord c rest)
    (offset : Nat) :
    queryToken offset c rest = (word false ⟨offset, c :: rest⟩).map fun (w, next) =>
      if next.rest.head? = some ':' then
        ⟨.field (String.ofList w.text), none, ⟨next.offset + 1, next.rest.tail⟩⟩
      else ⟨w.queryKind, none, next⟩ := by
  have hand : ¬ (c = '&' ∧ rest.head? = some '&') := by
    rintro ⟨rfl, htwice⟩
    exact h.single .and .and htwice
  have hor : ¬ (c = '|' ∧ rest.head? = some '|') := by
    rintro ⟨rfl, htwice⟩
    exact h.single .or .or htwice
  have hcaret : c ≠ '^' := by
    rintro rfl
    exact h.unnumbered .caret .caret
  have htilde : c ≠ '~' := by
    rintro rfl
    exact h.unnumbered .tilde .tilde
  simp only [queryToken, h.unsigned]
  rw [if_neg hand, if_neg hor, if_neg h.unquoted, if_neg hcaret, if_neg htilde, if_neg h.named]

/-- Outside of ranges a step is taken exactly by one of the rules. -/
theorem queryToken_eq_ok_iff {offset : Nat} {c : Char} {rest : List Char} {s : Step} :
    queryToken offset c rest = .ok s ↔ QueryStep offset c rest s := by
  refine ⟨.of_queryToken, fun h => ?_⟩
  cases h with
  | sign hsign => simp only [queryToken, hsign]
  | double sign twice => cases sign <;> simp [queryToken, sign?, twice]
  | phrase quote read =>
    subst quote
    simp [queryToken, sign?, read, Except.map]
  | number sign read => cases sign <;> simp [queryToken, sign?, read, Except.map]
  | field starts read colon =>
    rw [starts.queryToken_eq, read]
    exact congrArg Except.ok (if_pos colon)
  | word starts read alone =>
    rw [starts.queryToken_eq, read]
    exact congrArg Except.ok (if_neg alone)

/-- So it is in ranges. -/
theorem rangeToken_eq_ok_iff {start offset : Nat} {c : Char} {rest : List Char} {s : Step} :
    rangeToken start offset c rest = .ok s ↔ RangeStep start offset c rest s := by
  constructor
  · intro h
    unfold rangeToken at h
    split at h
    · rename_i hbracket
      subst hbracket
      cases h
      exact .closing .bracket
    rename_i hbracket
    split at h
    · rename_i hbrace
      subst hbrace
      cases h
      exact .closing .brace
    rename_i hbrace
    split at h
    · obtain ⟨⟨text, next⟩, hread, heq⟩ := Except.map_eq_ok_iff.mp h
      cases heq
      exact .phrase ‹_› hread
    · obtain ⟨⟨w, next⟩, hread, heq⟩ := Except.map_eq_ok_iff.mp h
      cases heq
      refine .word ?_ ‹_› hread
      rintro kind ⟨⟩
      · exact hbracket rfl
      · exact hbrace rfl
  · intro h
    cases h with
    | closing sign => cases sign <;> rfl
    | phrase quote read =>
      subst quote
      simp [rangeToken, read, Except.map]
    | word inside unquoted read =>
      have hbracket : c ≠ ']' := by
        rintro rfl
        exact inside _ .bracket
      have hbrace : c ≠ '}' := by
        rintro rfl
        exact inside _ .brace
      rw [rangeToken, if_neg hbracket, if_neg hbrace, if_neg unquoted, read]
      rfl

/-- The steps that cut a text into tokens. No range is open at its end. -/
inductive Run : Option Nat → Cursor → List Token → Prop
  | done {here : Cursor} : Run none here []
  | step {range : Option Nat} {here : Cursor} {c : Char} {rest : List Char} {s : Step}
      {ts : List Token} (skipped : (skipBlanks here).rest = c :: rest)
      (read : token range (skipBlanks here).offset c rest = .ok s)
      (more : Run s.range s.next ts) :
      Run range here (⟨s.kind, (skipBlanks here).offset⟩ :: ts)

theorem Run.of_tokens {range : Option Nat} {here : Cursor} {ts : List Token}
    (h : tokens range here = .ok ts) : Run range here ts := by
  fun_induction tokens range here generalizing ts with
  | case1 => cases h
  | case2 =>
    cases h
    exact .done
  | case3 => cases h
  | case4 range here c rest hrest s hread _ ih =>
    obtain ⟨ts', hts, rfl⟩ := Except.map_eq_ok_iff.mp h
    exact .step hrest hread (ih hts)

end SearchQuery.Lexer
