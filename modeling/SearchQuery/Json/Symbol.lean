import SearchQuery.Json
import SearchQuery.Text.Hex

/-!
The symbols that JSON text is made of.
-/

namespace SearchQuery.Json

open SearchQuery.Text (isHexDigit hexValue scalar?)

/-- A symbol of JSON text. -/
inductive Symbol
  | leftBrace
  | rightBrace
  | leftBracket
  | rightBracket
  | colon
  | comma
  | null
  | bool (value : Bool)
  | number (numeral : Numeral)
  | string (content : Content)
deriving DecidableEq

namespace Symbol

/-- What a letter or sign after a backslash stands for. -/
def escapeSign? : Char → Option Nat
  | '"' => some 0x22
  | '\\' => some 0x5C
  | '/' => some 0x2F
  | 'b' => some 0x08
  | 'f' => some 0x0C
  | 'n' => some 0x0A
  | 'r' => some 0x0D
  | 't' => some 0x09
  | _ => none

/-- The code unit of an escape, after its backslash. -/
def escapeUnit? : List Char → Option (Nat × List Char)
  | [] => none
  | c :: rest =>
    if c = 'u' then
      let digits := (rest.take 4).takeWhile isHexDigit
      if digits.length = 4 then some (hexValue digits, rest.drop 4) else none
    else (escapeSign? c).map (·, rest)

theorem escapeUnit?_shorter {cs rest : List Char} {n : Nat} (h : escapeUnit? cs = some (n, rest)) :
    rest.length < cs.length := by
  unfold escapeUnit? at h
  split at h
  · cases h
  · split at h
    · dsimp only at h
      split at h
      · cases h
        exact Nat.lt_succ_of_le (List.drop_sublist 4 _).length_le
      · cases h
    · obtain ⟨m, _, heq⟩ := Option.map_eq_some_iff.1 h
      cases heq
      exact Nat.lt_succ_self _

/-- The code units of a string up to its closing quote. A character is a unit of its own unless it
is escaped. Controls must be escaped. -/
def units? (cs : List Char) : Option (List Nat × List Char) :=
  match cs with
  | [] => none
  | c :: rest =>
    if c = '"' then some ([], rest)
    else if c = '\\' then
      match h : escapeUnit? rest with
      | none => none
      | some (n, after) =>
        have := escapeUnit?_shorter h
        (units? after).map fun (ns, last) => (n :: ns, last)
    else if c < ' ' then none
    else (units? rest).map fun (ns, last) => (c.toNat :: ns, last)
termination_by cs.length
decreasing_by all_goals (simp only [List.length_cons]; omega)

theorem units?_shorter {cs rest : List Char} {ns : List Nat} (h : units? cs = some (ns, rest)) :
    rest.length < cs.length := by
  fun_induction units? cs generalizing ns rest with
  | case1 => cases h
  | case2 =>
    cases h
    exact Nat.lt_succ_self _
  | case3 => cases h
  | case4 after n mid hmid hlt _ ih =>
    obtain ⟨⟨ms, last⟩, hq, heq⟩ := Option.map_eq_some_iff.1 h
    cases heq
    exact Nat.lt_succ_of_lt (Nat.lt_trans (ih hq) hlt)
  | case5 => cases h
  | case6 c after _ _ _ ih =>
    obtain ⟨⟨ms, last⟩, hq, heq⟩ := Option.map_eq_some_iff.1 h
    cases heq
    exact Nat.lt_succ_of_lt (ih hq)

/-- The first unit of a pair that stands for a character beyond 16 bits. -/
def isHighSurrogate (n : Nat) : Bool := 0xD800 ≤ n && n < 0xDC00

def isLowSurrogate (n : Nat) : Bool := 0xDC00 ≤ n && n < 0xE000

/-- The characters that code units stand for. Surrogates must come in pairs. -/
def characters? : List Nat → Option (List Char)
  | [] => some []
  | [n] => (scalar? n).map fun c => [c]
  | n :: m :: rest =>
    if isHighSurrogate n && isLowSurrogate m then
      (scalar? (0x10000 + (n - 0xD800) * 0x400 + (m - 0xDC00))).bind fun c =>
        (characters? rest).map (c :: ·)
    else (scalar? n).bind fun c => (characters? (m :: rest)).map (c :: ·)

/-- Splits the sign off an exponent. -/
def splitSign : List Char → ExponentSign × List Char
  | '+' :: body => (.plus, body)
  | '-' :: body => (.minus, body)
  | body => (.none, body)

/-- The digits of the exponent, if the mark of one stands here. -/
def exponent? : List Char → Option (Option (ExponentSign × List Char) × List Char)
  | c :: rest =>
    if c = 'e' ∨ c = 'E' then
      let body := (splitSign rest).2
      let digits := body.takeWhile Char.isDigit
      if digits.isEmpty then none
      else some (some ((splitSign rest).1, digits), body.drop digits.length)
    else some (none, c :: rest)
  | [] => some (none, [])

/-- The digits after the point, if one stands here. -/
def fraction? : List Char → Option (List Char × List Char)
  | c :: rest =>
    if c = '.' then
      let digits := rest.takeWhile Char.isDigit
      if digits.isEmpty then none else some (digits, rest.drop digits.length)
    else some ([], c :: rest)
  | [] => some ([], [])

/-- A number after its sign. It has no zeros in front. -/
def numeral? (negative : Bool) (cs : List Char) : Option (Numeral × List Char) :=
  let whole := cs.takeWhile Char.isDigit
  if whole.isEmpty ∨ (whole.head? = some '0' ∧ whole.length ≠ 1) then none
  else
    match fraction? (cs.drop whole.length) with
    | none => none
    | some (fraction, rest) =>
      match exponent? rest with
      | none => none
      | some (exponent, last) => some ({ negative, whole, fraction, exponent }, last)

theorem splitSign_shorter (cs : List Char) : (splitSign cs).2.length ≤ cs.length := by
  unfold splitSign
  split <;> simp

theorem exponent?_shorter {cs rest : List Char} {e : Option (ExponentSign × List Char)}
    (h : exponent? cs = some (e, rest)) : rest.length ≤ cs.length := by
  unfold exponent? at h
  split at h
  · rename_i c tail
    split at h
    · dsimp only at h
      split at h
      · cases h
      · cases h
        exact Nat.le_succ_of_le
          (Nat.le_trans (List.drop_sublist _ _).length_le (splitSign_shorter tail))
    · cases h
      exact Nat.le_refl _
  · cases h
    exact Nat.le_refl _

theorem fraction?_shorter {cs rest digits : List Char} (h : fraction? cs = some (digits, rest)) :
    rest.length ≤ cs.length := by
  unfold fraction? at h
  split at h
  · split at h
    · dsimp only at h
      split at h
      · cases h
      · cases h
        exact Nat.le_succ_of_le (List.drop_sublist _ _).length_le
    · cases h
      exact Nat.le_refl _
  · cases h
    exact Nat.le_refl _

theorem numeral?_shorter {negative : Bool} {cs rest : List Char} {n : Numeral}
    (h : numeral? negative cs = some (n, rest)) : rest.length < cs.length := by
  unfold numeral? at h
  dsimp only at h
  split at h
  · cases h
  · rename_i hne
    split at h
    · cases h
    · rename_i digits after hf
      split at h
      · cases h
      · rename_i e last he
        cases h
        have h1 := fraction?_shorter hf
        have h2 := exponent?_shorter he
        have h3 : 0 < (cs.takeWhile Char.isDigit).length := by
          apply List.length_pos_iff.mpr
          intro hnil
          simp [hnil] at hne
        have h4 : (cs.takeWhile Char.isDigit).length ≤ cs.length :=
          (List.takeWhile_sublist _).length_le
        simp only [List.length_drop] at h1
        omega

/-- A word of letters at the front of a text. -/
def keyword? (word : List Char) (symbol : Symbol) (cs : List Char) : Option (Symbol × List Char) :=
  if cs.take word.length = word then some (symbol, cs.drop word.length) else none

/-- The symbol that starts with `c`. -/
def start? (c : Char) (rest : List Char) : Option (Symbol × List Char) :=
  match c with
  | '{' => some (leftBrace, rest)
  | '}' => some (rightBrace, rest)
  | '[' => some (leftBracket, rest)
  | ']' => some (rightBracket, rest)
  | ':' => some (colon, rest)
  | ',' => some (comma, rest)
  | 'n' => keyword? "ull".toList null rest
  | 't' => keyword? "rue".toList (bool true) rest
  | 'f' => keyword? "alse".toList (bool false) rest
  | '"' => (units? rest).map fun (ns, last) => (string ((characters? ns).map String.ofList), last)
  | '-' => (numeral? true rest).map fun (n, last) => (number n, last)
  | c => (numeral? false (c :: rest)).map fun (n, last) => (number n, last)

theorem keyword?_shorter {word cs rest : List Char} {symbol s : Symbol}
    (h : keyword? word symbol cs = some (s, rest)) : rest.length ≤ cs.length := by
  unfold keyword? at h
  split at h
  · cases h
    exact (List.drop_sublist _ _).length_le
  · cases h

theorem start?_shorter {c : Char} {cs rest : List Char} {s : Symbol}
    (h : start? c cs = some (s, rest)) : rest.length ≤ cs.length := by
  unfold start? at h
  split at h
  any_goals
    cases h
    exact Nat.le_refl _
  any_goals exact keyword?_shorter h
  · obtain ⟨⟨ns, last⟩, hq, heq⟩ := Option.map_eq_some_iff.1 h
    cases heq
    exact Nat.le_of_lt (units?_shorter hq)
  · obtain ⟨⟨n, last⟩, hq, heq⟩ := Option.map_eq_some_iff.1 h
    cases heq
    exact Nat.le_of_lt (numeral?_shorter hq)
  · obtain ⟨⟨n, last⟩, hq, heq⟩ := Option.map_eq_some_iff.1 h
    cases heq
    exact Nat.le_of_lt_succ (numeral?_shorter hq)

/-- White space between symbols. -/
def isSpace (c : Char) : Bool := c == ' ' || c == '\n' || c == '\t' || c == '\r'

/-- The symbols of a text. -/
def scan? (cs : List Char) : Option (List Symbol) :=
  match cs with
  | [] => some []
  | c :: rest =>
    if isSpace c then scan? rest
    else
      match h : start? c rest with
      | none => none
      | some (s, after) =>
        have := start?_shorter h
        (scan? after).map (s :: ·)
termination_by cs.length
decreasing_by all_goals (simp only [List.length_cons]; omega)

end Symbol

end SearchQuery.Json
