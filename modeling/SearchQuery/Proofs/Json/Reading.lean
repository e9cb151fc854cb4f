import Mathlib.Tactic.Common
import SearchQuery.Json.Reader
import SearchQuery.Json.Writer
import SearchQuery.Proofs.Lists

/-!
Reading JSON text that was written. Strings and names come back with all their characters, a number
ends where the next sign stands, and the reader puts the symbols together again. Main statement: a
value whose numbers are spelled as JSON asks is read back from its text.
-/

namespace SearchQuery.Json

open Text (isHexDigit hexValue scalar? scalar?_toNat)

/-! ## Strings -/

namespace Symbol

/-- A character is no surrogate, so that it makes no pair with the one after it. -/
theorem isHighSurrogate_toNat (c : Char) : isHighSurrogate c.toNat = false := by
  have hvalid : c.toNat < 0xD800 ∨ 0xDFFF < c.toNat ∧ c.toNat < 0x110000 := c.valid
  simp only [isHighSurrogate, Bool.and_eq_false_iff, decide_eq_false_iff_not]
  omega

theorem characters?_map_toNat (cs : List Char) : characters? (cs.map Char.toNat) = some cs := by
  induction cs with
  | nil => rfl
  | cons c cs ih =>
    cases cs with
    | nil => rw [List.map_singleton, characters?, scalar?_toNat, Option.map_some]
    | cons d cs =>
      rw [List.map_cons, List.map_cons, characters?, isHighSurrogate_toNat, Bool.false_and,
        if_neg Bool.false_ne_true, scalar?_toNat, Option.bind_some, ← List.map_cons, ih,
        Option.map_some]

theorem units?_escaped {cs after : List Char} {n : Nat} (h : escapeUnit? cs = some (n, after)) :
    units? ('\\' :: cs) = (units? after).map fun (ns, last) => (n :: ns, last) := by
  rw [units?]
  simp only [Char.reduceEq, ↓reduceIte]
  split
  · rename_i hnone
    rw [hnone] at h
    cases h
  · rename_i m after' hsome
    rw [hsome] at h
    cases h
    rfl

theorem units?_plain {c : Char} (hquote : c ≠ '"') (hbackslash : c ≠ '\\') (hcontrol : ¬ c < ' ')
    (cs : List Char) :
    units? (c :: cs) = (units? cs).map fun (ns, last) => (c.toNat :: ns, last) := by
  rw [units?, if_neg hquote, if_neg hbackslash, if_neg hcontrol]

/-- A control is written as the four digits of its number. -/
theorem escapeUnit?_control {c : Char} (h : c < ' ') (cs : List Char) :
    escapeUnit? ('u' :: ((Nat.toDigits 16 c.toNat).leftpad 4 '0' ++ cs)) = some (c.toNat, cs) := by
  have hdigits : ∀ n < 32, ((Nat.toDigits 16 n).leftpad 4 '0').length = 4 ∧
      ((Nat.toDigits 16 n).leftpad 4 '0').all isHexDigit = true ∧
      hexValue ((Nat.toDigits 16 n).leftpad 4 '0') = n := by decide
  obtain ⟨hlength, hhex, hvalue⟩ := hdigits c.toNat h
  have hall := List.takeWhile_eq_self_iff.mpr (List.all_eq_true.mp hhex)
  simp only [escapeUnit?, ↓reduceIte, List.take_left' hlength, hall, hlength,
    List.drop_left' hlength, hvalue]

/-- What stands for a character in a string is read as that character. -/
theorem units?_escapeChar (c : Char) (cs : List Char) :
    units? (escapeChar c ++ cs) = (units? cs).map fun (ns, last) => (c.toNat :: ns, last) := by
  unfold escapeChar
  split
  -- The last case has no escape of its own: a control with its number, or the character itself.
  case h_8 hquote hbackslash _ _ _ _ _ =>
    split
    · rename_i hcontrol
      exact units?_escaped (escapeUnit?_control hcontrol cs)
    · rename_i hcontrol
      exact units?_plain hquote hbackslash hcontrol cs
  all_goals exact units?_escaped rfl

theorem units?_flatMap_escapeChar (cs rest : List Char) :
    units? (cs.flatMap escapeChar ++ '"' :: rest) = some (cs.map Char.toNat, rest) := by
  induction cs with
  | nil => rw [List.flatMap_nil, List.nil_append, units?, if_pos rfl, List.map_nil]
  | cons c cs ih => rw [List.flatMap_cons, List.append_assoc, units?_escapeChar, ih]; rfl

end Symbol

/-! ## Numbers -/

/-- A number as JSON asks it to be spelled: with digits before the point and in the exponent, and no
zeros in front. -/
structure Numeral.WellFormed (n : Numeral) : Prop where
  whole : ∀ c ∈ n.whole, c.isDigit = true
  nonempty : n.whole ≠ []
  unpadded : n.whole.head? = some '0' → n.whole.length = 1
  fraction : ∀ c ∈ n.fraction, c.isDigit = true
  exponent : ∀ sign digits, n.exponent = some (sign, digits) →
    digits ≠ [] ∧ ∀ c ∈ digits, c.isDigit = true

namespace Symbol

/-- Whether a number can go on with a character. -/
def goesOn (c : Char) : Bool := c.isDigit || c == '.' || c == 'e' || c == 'E'

/-- Whether a number ends where the rest of a text starts. -/
def endsNumber (rest : List Char) : Bool := rest.head?.all fun c => !goesOn c

/-- The digits at the front of a text, up to a character that is none. -/
theorem takeWhile_digits {digits rest : List Char} (h : ∀ c ∈ digits, c.isDigit = true)
    (hrest : ∀ c, rest.head? = some c → c.isDigit = false) :
    (digits ++ rest).takeWhile Char.isDigit = digits := by
  rw [List.takeWhile_append_of_pos h]
  cases rest with
  | nil => rw [List.takeWhile_nil, List.append_nil]
  | cons c rest => rw [List.takeWhile_cons_of_neg (by simp [hrest c rfl]), List.append_nil]

theorem not_goesOn {rest : List Char} (h : endsNumber rest = true) {c : Char}
    (hc : rest.head? = some c) : c.isDigit = false ∧ c ≠ '.' ∧ c ≠ 'e' ∧ c ≠ 'E' := by
  have hgoes : goesOn c = false := by simpa [endsNumber, hc] using h
  simpa [goesOn, and_assoc] using hgoes

theorem splitSign_of_digit {c : Char} (h : c.isDigit = true) (cs : List Char) :
    splitSign (c :: cs) = (.none, c :: cs) := by
  unfold splitSign
  split
  · rename_i hplus
    cases hplus
    exact absurd h (by decide)
  · rename_i hminus
    cases hminus
    exact absurd h (by decide)
  · rfl

/-- The mark and digits of an exponent, as they are written. -/
def exponentSpelling : Option (ExponentSign × List Char) → List Char
  | some (sign, digits) => sign.spelling ++ digits
  | none => []

theorem exponent?_spelling {exponent : Option (ExponentSign × List Char)} {rest : List Char}
    (h : ∀ sign digits, exponent = some (sign, digits) →
      digits ≠ [] ∧ ∀ c ∈ digits, c.isDigit = true) (hrest : endsNumber rest = true) :
    exponent? (exponentSpelling exponent ++ rest) = some (exponent, rest) := by
  cases exponent with
  | none =>
    cases rest with
    | nil => rfl
    | cons c rest =>
      obtain ⟨-, -, hlower, hupper⟩ := not_goesOn hrest rfl
      exact if_neg (not_or.mpr ⟨hlower, hupper⟩)
  | some marked =>
    obtain ⟨sign, digits⟩ := marked
    obtain ⟨hne, hdigits⟩ := h sign digits rfl
    have hsplit : splitSign ((sign.spelling ++ digits ++ rest).drop 1) =
        (sign, digits ++ rest) := by
      cases sign with
      | none =>
        obtain ⟨c, cs, rfl⟩ := List.exists_cons_of_ne_nil hne
        exact splitSign_of_digit (hdigits c List.mem_cons_self) (cs ++ rest)
      | plus => rfl
      | minus => rfl
    have htake : (digits ++ rest).takeWhile Char.isDigit = digits :=
      takeWhile_digits hdigits fun c hc => (not_goesOn hrest hc).1
    obtain ⟨body, hbody⟩ : ∃ body, sign.spelling ++ digits ++ rest = 'e' :: body := by
      cases sign <;> exact ⟨_, rfl⟩
    rw [exponentSpelling, hbody]
    rw [hbody, List.drop_one, List.tail_cons] at hsplit
    simp only [exponent?, true_or, ↓reduceIte, hsplit, htake, List.isEmpty_iff, hne,
      List.drop_left]

theorem fraction?_spelling {fraction rest : List Char} (h : ∀ c ∈ fraction, c.isDigit = true)
    (hrest : ∀ c, rest.head? = some c → c.isDigit = false ∧ c ≠ '.') :
    fraction? ((if fraction.isEmpty then [] else '.' :: fraction) ++ rest) =
      some (fraction, rest) := by
  by_cases hempty : fraction = []
  · subst hempty
    cases rest with
    | nil => rfl
    | cons c rest => exact if_neg (hrest c rfl).2
  · have htake : (fraction ++ rest).takeWhile Char.isDigit = fraction :=
      takeWhile_digits h fun c hc => (hrest c hc).1
    simp only [List.isEmpty_iff, hempty, ↓reduceIte, List.cons_append, fraction?, htake,
      List.drop_left]

/-- A number without its sign, as it is written. -/
def unsignedSpelling (n : Numeral) : List Char :=
  n.whole ++ ((if n.fraction.isEmpty then [] else '.' :: n.fraction) ++ exponentSpelling n.exponent)

theorem spelling_eq (n : Numeral) :
    n.spelling = (if n.negative then ['-'] else []) ++ unsignedSpelling n := by
  simp only [Numeral.spelling, unsignedSpelling, List.append_assoc]
  rfl

/-- After the fraction comes the mark of the exponent or what ends the number. -/
theorem not_digit_of_exponentSpelling {exponent : Option (ExponentSign × List Char)}
    {rest : List Char} (hrest : endsNumber rest = true) {c : Char}
    (hc : (exponentSpelling exponent ++ rest).head? = some c) : c.isDigit = false ∧ c ≠ '.' := by
  cases exponent with
  | none =>
    obtain ⟨hdigit, hpoint, -⟩ := not_goesOn hrest hc
    exact ⟨hdigit, hpoint⟩
  | some marked =>
    obtain ⟨sign, digits⟩ := marked
    have hmark : c = 'e' := by cases sign <;> exact (Option.some.inj hc).symm
    subst hmark
    decide

theorem takeWhile_unsignedSpelling {n : Numeral} (h : n.WellFormed) {rest : List Char}
    (hrest : endsNumber rest = true) :
    (unsignedSpelling n ++ rest).takeWhile Char.isDigit = n.whole := by
  rw [unsignedSpelling, List.append_assoc, List.append_assoc]
  refine takeWhile_digits h.whole ?_
  intro c hc
  by_cases hempty : n.fraction = []
  · rw [hempty] at hc
    exact (not_digit_of_exponentSpelling hrest hc).1
  · simp only [List.isEmpty_iff, hempty, ↓reduceIte, List.cons_append, List.head?_cons,
      Option.some.injEq] at hc
    subst hc
    decide

/-- A number is read up to the first character that cannot belong to it. -/
theorem numeral?_spelling {n : Numeral} (h : n.WellFormed) {rest : List Char}
    (hrest : endsNumber rest = true) :
    numeral? n.negative (unsignedSpelling n ++ rest) = some (n, rest) := by
  have hunpadded : ¬ (n.whole.isEmpty = true ∨ n.whole.head? = some '0' ∧ n.whole.length ≠ 1) := by
    rintro (hempty | ⟨hzero, hlong⟩)
    · exact h.nonempty (List.isEmpty_iff.mp hempty)
    · exact hlong (h.unpadded hzero)
  have hdrop : (unsignedSpelling n ++ rest).drop n.whole.length =
      (if n.fraction.isEmpty then [] else '.' :: n.fraction) ++
        (exponentSpelling n.exponent ++ rest) := by
    rw [unsignedSpelling, List.append_assoc, List.append_assoc, List.drop_left]
  have hstop : ∀ c, (exponentSpelling n.exponent ++ rest).head? = some c →
      c.isDigit = false ∧ c ≠ '.' := fun c => not_digit_of_exponentSpelling hrest
  have hfraction := fraction?_spelling h.fraction hstop
  have hexponent := exponent?_spelling h.exponent hrest
  simp only [numeral?, takeWhile_unsignedSpelling h hrest, if_neg hunpadded, hdrop, hfraction,
    hexponent]

/-! ## Symbols -/

theorem scan?_cons {c : Char} {rest after : List Char} {s : Symbol} (hspace : isSpace c = false)
    (h : start? c rest = some (s, after)) :
    scan? (c :: rest) = (scan? after).map (s :: ·) := by
  rw [scan?, hspace]
  simp only [Bool.false_eq_true, ↓reduceIte]
  split
  · rename_i hnone
    rw [hnone] at h
    cases h
  · rename_i hsome
    rw [hsome] at h
    cases h
    rfl

/-- A text falls into symbols, whatever comes after it that is not part of a number. -/
def Scans (cs : List Char) (ss : List Symbol) : Prop :=
  ∀ rest, endsNumber rest = true → scan? (cs ++ rest) = (scan? rest).map (ss ++ ·)

namespace Scans

variable {cs cs' : List Char} {ss ss' : List Symbol}

theorem nil : Scans [] [] := by
  intro rest _
  simp

theorem single {c : Char} {s : Symbol} (hspace : isSpace c = false)
    (h : ∀ rest, endsNumber rest = true → start? c (cs ++ rest) = some (s, rest)) :
    Scans (c :: cs) [s] := by
  intro rest hrest
  rw [List.cons_append, scan?_cons hspace (h rest hrest)]
  rfl

theorem sign {c : Char} {s : Symbol} (hspace : isSpace c = false)
    (h : ∀ rest, start? c rest = some (s, rest)) (hcs : Scans cs ss) :
    Scans (c :: cs) (s :: ss) := by
  intro rest hrest
  rw [List.cons_append, scan?_cons hspace (h (cs ++ rest)), hcs rest hrest, Option.map_map]
  rfl

/-- A text ends in front of a character that no number goes on with. -/
theorem append {c : Char} (h : Scans cs ss) (h' : Scans (c :: cs') ss') (hc : goesOn c = false) :
    Scans (cs ++ c :: cs') (ss ++ ss') := by
  intro rest hrest
  have hends : endsNumber (c :: cs' ++ rest) = true := by simp [endsNumber, hc]
  rw [List.append_assoc, h _ hends, h' rest hrest, Option.map_map]
  simp only [Function.comp_def, List.append_assoc]

theorem intercalate {css : List (List Char)} {sss : List (List Symbol)}
    (h : List.Forall₂ Scans css sss) :
    Scans ([','].intercalate css) ([.comma].intercalate sss) := by
  induction h with
  | nil => exact nil
  | cons first others ih =>
    cases others with
    | nil =>
      rw [List.intercalate_singleton, List.intercalate_singleton]
      exact first
    | cons second others =>
      rw [List.intercalate_cons_cons, List.intercalate_cons_cons, List.append_assoc,
        List.append_assoc]
      exact first.append (ih.sign (by decide) fun _ => rfl) (by decide)

/-- What stands in brackets, with the brackets. -/
theorem bracket {left right : Char} {opening closing : Symbol} (h : Scans cs ss)
    (hleft : isSpace left = false) (hright : isSpace right = false) (hends : goesOn right = false)
    (hopening : ∀ rest, start? left rest = some (opening, rest))
    (hclosing : ∀ rest, start? right rest = some (closing, rest)) :
    Scans (left :: cs ++ [right]) (opening :: ss ++ [closing]) :=
  (h.append (nil.sign hright hclosing) hends).sign hleft hopening

theorem string (content : Content) : Scans content.spelling [.string content] := by
  cases content with
  | some s =>
    have hspelling : Content.spelling (some s) =
        '"' :: (s.toList.flatMap escapeChar ++ ['"']) := rfl
    rw [hspelling]
    refine single (by decide) ?_
    intro rest _
    have hunits := units?_flatMap_escapeChar s.toList rest
    rw [List.append_assoc, List.singleton_append]
    simp only [start?, hunits, Option.map_some, characters?_map_toNat, String.ofList_toList]
  | none =>
    -- The lone surrogate is one code unit and no character.
    have hspelling : Content.spelling none = ['"', '\\', 'u', 'd', '8', '0', '0', '"'] := by decide
    rw [hspelling]
    refine single (by decide) ?_
    intro rest _
    have hescape : escapeUnit? ('u' :: 'd' :: '8' :: '0' :: '0' :: '"' :: rest) =
        some (0xD800, '"' :: rest) := rfl
    have hclosed : units? ('"' :: rest) = some ([], rest) := by rw [units?, if_pos rfl]
    have hunits := units?_escaped hescape
    rw [hclosed, Option.map_some] at hunits
    simp only [List.cons_append, List.nil_append, start?, hunits, Option.map_some]
    rfl

theorem start?_digit {c : Char} (h : c.isDigit = true) (cs : List Char) :
    start? c cs = (numeral? false (c :: cs)).map fun (n, last) => (.number n, last) := by
  unfold start?
  split
  case h_12 => rfl
  all_goals exact absurd h (by decide)

theorem number {n : Numeral} (h : n.WellFormed) : Scans n.spelling [.number n] := by
  rw [spelling_eq]
  cases hsign : n.negative with
  | true =>
    rw [if_pos rfl, List.singleton_append]
    refine single (by decide) ?_
    intro rest hrest
    have hread := numeral?_spelling h hrest
    rw [hsign] at hread
    simp only [start?, hread, Option.map_some]
  | false =>
    obtain ⟨c, digits, hwhole⟩ := List.exists_cons_of_ne_nil h.nonempty
    have hdigit : c.isDigit = true := h.whole c (hwhole ▸ List.mem_cons_self)
    have hspace : isSpace c = false := by
      cases hc : isSpace c with
      | false => rfl
      | true =>
        simp only [isSpace, Bool.or_eq_true, beq_iff_eq] at hc
        rcases hc with ((rfl | rfl) | rfl) | rfl <;> exact absurd hdigit (by decide)
    obtain ⟨tail, htail⟩ : ∃ tail, unsignedSpelling n = c :: tail := by
      rw [unsignedSpelling, hwhole]
      exact ⟨_, rfl⟩
    rw [if_neg Bool.false_ne_true, List.nil_append, htail]
    refine single hspace ?_
    intro rest hrest
    have hread := numeral?_spelling h hrest
    rw [hsign, htail, List.cons_append] at hread
    rw [start?_digit hdigit, hread]
    rfl

end Scans

end Symbol

/-! ## Values -/

/-- A value whose numbers are spelled as JSON asks. -/
inductive WellFormed : Json → Prop
  | null : WellFormed null
  | bool (value : Bool) : WellFormed (bool value)
  | number {n : Numeral} (spelled : n.WellFormed) : WellFormed (number n)
  | string (content : Content) : WellFormed (string content)
  | array {items : List Json} (all : ∀ item ∈ items, WellFormed item) : WellFormed (array items)
  | object {members : List (Content × Json)} (all : ∀ member ∈ members, WellFormed member.2) :
      WellFormed (object members)

mutual

/-- The symbols of a value. -/
def symbols : Json → List Symbol
  | null => [.null]
  | bool value => [.bool value]
  | number n => [.number n]
  | string content => [.string content]
  | array items => .leftBracket :: [.comma].intercalate (itemSymbols items) ++ [.rightBracket]
  | object members => .leftBrace :: [.comma].intercalate (memberSymbols members) ++ [.rightBrace]

def itemSymbols : List Json → List (List Symbol)
  | [] => []
  | item :: rest => symbols item :: itemSymbols rest

def memberSymbols : List (Content × Json) → List (List Symbol)
  | [] => []
  | (name, value) :: rest => (.string name :: .colon :: symbols value) :: memberSymbols rest

end

open SearchQuery.Json.Symbol (Scans)

theorem scans_items {items : List Json} (h : ∀ item ∈ items, Scans item.spelling item.symbols) :
    List.Forall₂ Scans (itemSpellings items) (itemSymbols items) := by
  induction items with
  | nil =>
    rw [itemSpellings, itemSymbols]
    exact .nil
  | cons item items ih =>
    rw [List.forall_mem_cons] at h
    rw [itemSpellings, itemSymbols]
    exact .cons h.1 (ih h.2)

theorem scans_members {members : List (Content × Json)}
    (h : ∀ member ∈ members, Scans member.2.spelling member.2.symbols) :
    List.Forall₂ Scans (memberSpellings members) (memberSymbols members) := by
  induction members with
  | nil =>
    rw [memberSpellings, memberSymbols]
    exact .nil
  | cons member members ih =>
    obtain ⟨name, value⟩ := member
    rw [List.forall_mem_cons] at h
    rw [memberSpellings, memberSymbols]
    have hvalue : Scans (':' :: value.spelling) (.colon :: value.symbols) :=
      Scans.sign (by decide) (fun _ => rfl) h.1
    exact .cons ((Scans.string name).append hvalue (by decide)) (ih h.2)

/-- The text of a value falls into its symbols. -/
theorem WellFormed.scans {json : Json} (h : json.WellFormed) :
    Scans json.spelling json.symbols := by
  induction h with
  | null =>
    rw [spelling, symbols]
    exact Scans.single (by decide) fun _ _ => rfl
  | bool value =>
    cases value with
    | true =>
      rw [spelling, symbols]
      exact Scans.single (by decide) fun _ _ => rfl
    | false =>
      rw [spelling, symbols]
      exact Scans.single (by decide) fun _ _ => rfl
  | number spelled =>
    rw [spelling, symbols]
    exact Scans.number spelled
  | string content =>
    rw [spelling, symbols]
    exact Scans.string content
  | array _ ih =>
    rw [spelling, symbols]
    exact (Scans.intercalate (scans_items ih)).bracket (by decide) (by decide) (by decide)
      (fun _ => rfl) (fun _ => rfl)
  | object _ ih =>
    rw [spelling, symbols]
    exact (Scans.intercalate (scans_members ih)).bracket (by decide) (by decide) (by decide)
      (fun _ => rfl) (fun _ => rfl)

/-! ## Putting symbols together -/

/-- A value is put together from its symbols, whatever is open around it. -/
def Assembles (json : Json) : Prop :=
  ∀ frames rest, run? .value frames (json.symbols ++ rest) = run? (.complete json) frames rest

/-- No value starts with the sign that closes an array, so that the first item is a value. -/
theorem run?_firstItem (item : Json) (items : List Json) (frames : List Frame)
    (rest : List Symbol) :
    run? .firstItem frames ([.comma].intercalate (itemSymbols (item :: items)) ++ rest) =
      run? .value (.array [] :: frames)
        ([.comma].intercalate (itemSymbols (item :: items)) ++ rest) := by
  obtain ⟨s, ss, hsymbols, hs⟩ : ∃ s ss, item.symbols = s :: ss ∧ s ≠ .rightBracket := by
    cases item with
    | _ =>
      rw [symbols]
      exact ⟨_, _, rfl, by simp⟩
  obtain ⟨tail, htail⟩ := List.intercalate_cons_eq_append [.comma] item.symbols (itemSymbols items)
  rw [itemSymbols, htail, hsymbols, List.cons_append, List.cons_append, run?, run?, if_neg hs]

/-- The first name of an object is read as the others are. -/
theorem run?_firstName (member : Content × Json) (members : List (Content × Json))
    (frames : List Frame) (rest : List Symbol) :
    run? .firstName frames ([.comma].intercalate (memberSymbols (member :: members)) ++ rest) =
      run? (.name []) frames
        ([.comma].intercalate (memberSymbols (member :: members)) ++ rest) := by
  obtain ⟨name, value⟩ := member
  obtain ⟨tail, htail⟩ := List.intercalate_cons_eq_append [.comma]
    (.string name :: .colon :: value.symbols) (memberSymbols members)
  rw [memberSymbols, htail, List.cons_append, List.cons_append, run?, run?]

/-- The items of an array, after those that are read already. -/
theorem run?_items {item : Json} {items : List Json} (h : ∀ x ∈ item :: items, x.Assembles)
    (done : List Json) (frames : List Frame) (rest : List Symbol) :
    run? .value (.array done :: frames)
        ([.comma].intercalate (itemSymbols (item :: items)) ++ .rightBracket :: rest) =
      run? (.complete (.array (done.reverse ++ item :: items))) frames rest := by
  induction items generalizing item done with
  | nil =>
    rw [List.forall_mem_singleton] at h
    rw [itemSymbols, itemSymbols, List.intercalate_singleton, h, run?, List.reverse_cons]
  | cons next items ih =>
    rw [List.forall_mem_cons] at h
    have hnext := ih h.2 (item :: done)
    rw [itemSymbols] at hnext
    rw [itemSymbols, itemSymbols, List.intercalate_cons_cons, List.append_assoc, List.append_assoc,
      h.1, List.singleton_append, run?, hnext, List.reverse_cons, List.append_assoc,
      List.singleton_append]

/-- The members of an object, after those that are read already. -/
theorem run?_members {member : Content × Json} {members : List (Content × Json)}
    (h : ∀ x ∈ member :: members, x.2.Assembles) (done : List (Content × Json))
    (frames : List Frame) (rest : List Symbol) :
    run? (.name done) frames
        ([.comma].intercalate (memberSymbols (member :: members)) ++ .rightBrace :: rest) =
      run? (.complete (.object (done.reverse ++ member :: members))) frames rest := by
  induction members generalizing member done with
  | nil =>
    obtain ⟨name, value⟩ := member
    rw [List.forall_mem_singleton] at h
    rw [memberSymbols, memberSymbols, List.intercalate_singleton, List.cons_append,
      List.cons_append, run?, run?, h, run?, List.reverse_cons]
  | cons next members ih =>
    obtain ⟨name, value⟩ := member
    rw [List.forall_mem_cons] at h
    have hnext := ih h.2 ((name, value) :: done)
    rw [memberSymbols] at hnext
    rw [memberSymbols, memberSymbols, List.intercalate_cons_cons, List.append_assoc,
      List.append_assoc, List.cons_append, List.cons_append, run?, run?, h.1,
      List.singleton_append, run?, hnext, List.reverse_cons, List.append_assoc,
      List.singleton_append]

theorem WellFormed.assembles {json : Json} (h : json.WellFormed) : json.Assembles := by
  induction h with
  | @array items _ ih =>
    intro frames rest
    rw [symbols, List.append_assoc, List.cons_append, run?]
    cases items with
    | nil => rfl
    | cons item items =>
      exact (run?_firstItem item items frames _).trans (run?_items ih [] frames rest)
  | @object members _ ih =>
    intro frames rest
    rw [symbols, List.append_assoc, List.cons_append, run?]
    cases members with
    | nil => rfl
    | cons member members =>
      exact (run?_firstName member members frames _).trans (run?_members ih [] frames rest)
  | _ =>
    intro frames rest
    rw [symbols]
    rfl

/-- A value is read back from its text. -/
theorem read?_render {json : Json} (h : json.WellFormed) : read? json.render = some json := by
  have hscan : Symbol.scan? json.spelling = some json.symbols := by
    have hall := h.scans [] rfl
    rwa [List.append_nil, Symbol.scan?, Option.map_some, List.append_nil] at hall
  have hrun : run? .value [] json.symbols = some json := by
    have hall := h.assembles [] []
    rwa [List.append_nil] at hall
  rw [read?, render, String.toList_ofList, hscan, Option.bind_some, hrun]

end SearchQuery.Json
