import SearchQuery.Error
import SearchQuery.Except
import SearchQuery.Text.Blank
import SearchQuery.Text.Hex

/-!
From query text to tokens. White space separates tokens. A backslash makes the next character
literal, and `\u` with four hexadecimal digits stands for a code point. Between the brackets of a
range a word ends at white space, quotes and closing brackets only. Main statement: every token
consumes at least one character, so that reading a text ends.
-/

namespace SearchQuery.Lexer

open Number (Single Decimal)
open Text (isBlank isHexDigit hexValue scalar?)

/-- The text left to read, and the number of characters before it. -/
structure Cursor where
  offset : Nat
  rest : List Char
deriving DecidableEq

/-- Whether a character ends a word, in a range or outside of one. -/
def endsWord (inRange : Bool) (c : Char) : Bool :=
  isBlank c || c == '"' ||
    (if inRange then c == ']' || c == '}'
    else ['(', ')', '^', '~', ':', '[', ']', '{', '}'].contains c)

/-- What an escape stands for. The backslash is at `position`, and `cs` is the text after it. -/
def escape (position : Nat) (cs : List Char) : Except LexError (Char × Cursor) :=
  match cs with
  | [] => .error (.trailingBackslash position)
  | c :: rest =>
    if c = 'u' then
      let digits := (rest.take 4).takeWhile isHexDigit
      if digits.length = 4 then
        match scalar? (hexValue digits) with
        | some e => .ok (e, ⟨position + 6, rest.drop 4⟩)
        | none => .error (.unicodeEscape (String.ofList digits) position)
      else .error (.shortUnicodeEscape position)
    else .ok (c, ⟨position + 2, rest⟩)

theorem escape_shorter {position : Nat} {cs : List Char} {e : Char} {next : Cursor}
    (h : escape position cs = .ok (e, next)) : next.rest.length < cs.length := by
  unfold escape at h
  split at h
  · cases h
  · split at h
    · dsimp only at h
      split at h
      · split at h
        · cases h
          exact Nat.lt_succ_of_le (List.drop_sublist 4 _).length_le
        · cases h
      · cases h
    · cases h
      exact Nat.lt_succ_self _

/-- A quoted text up to its closing quote. The opening quote is at `start`. -/
def quoted (start : Nat) (here : Cursor) : Except LexError (List Char × Cursor) :=
  match here with
  | ⟨_, []⟩ => .error (.unterminatedQuote start)
  | ⟨offset, c :: rest⟩ =>
    if c = '"' then .ok ([], ⟨offset + 1, rest⟩)
    else if c = '\\' then
      match h : escape offset rest with
      | .error e => .error e
      | .ok (e, next) =>
        have := escape_shorter h
        (quoted start next).map fun (text, last) => (e :: text, last)
    else (quoted start ⟨offset + 1, rest⟩).map fun (text, last) => (c :: text, last)
termination_by here.rest.length
decreasing_by all_goals (simp only [List.length_cons]; omega)

/-- An unquoted word. -/
structure Word where
  /-- The characters, with escapes resolved. -/
  text : List Char
  /-- The same, but a literal `*`, `?` or backslash stays escaped. -/
  pattern : List Char
  escaped : Bool
  wildcard : Bool
deriving DecidableEq

namespace Word

def empty : Word := ⟨[], [], false, false⟩

/-- The characters that an escape keeps out of the wildcards of a pattern. -/
def isPatternSign (c : Char) : Bool := c == '*' || c == '?' || c == '\\'

/-- Puts an unescaped character in front. -/
def cons (c : Char) (w : Word) : Word :=
  ⟨c :: w.text, c :: w.pattern, w.escaped, w.wildcard || c == '*' || c == '?'⟩

/-- Puts an escaped character in front. -/
def consEscaped (c : Char) (w : Word) : Word :=
  ⟨c :: w.text, if isPatternSign c then '\\' :: c :: w.pattern else c :: w.pattern, true,
    w.wildcard⟩

/-- The token of a word that is not a keyword. -/
def plainKind (w : Word) : Token.Kind :=
  if w.wildcard then .wildcard (String.ofList w.pattern) else .term (String.ofList w.text)

/-- The token of a word outside of ranges. -/
def queryKind (w : Word) : Token.Kind :=
  if !w.escaped && w.text == "AND".toList then .and
  else if !w.escaped && w.text == "OR".toList then .or
  else if !w.escaped && w.text == "NOT".toList then .not
  else w.plainKind

/-- The token of a word in a range. -/
def rangeKind (w : Word) : Token.Kind :=
  if !w.escaped && w.text == "TO".toList then .rangeTo else w.plainKind

end Word

/-- The word at the cursor, which is empty where a character ends words. -/
def word (inRange : Bool) (here : Cursor) : Except LexError (Word × Cursor) :=
  match here with
  | ⟨offset, []⟩ => .ok (.empty, ⟨offset, []⟩)
  | ⟨offset, c :: rest⟩ =>
    if endsWord inRange c then .ok (.empty, ⟨offset, c :: rest⟩)
    else if c = '\\' then
      match h : escape offset rest with
      | .error e => .error e
      | .ok (e, next) =>
        have := escape_shorter h
        (word inRange next).map fun (w, last) => (w.consEscaped e, last)
    else (word inRange ⟨offset + 1, rest⟩).map fun (w, last) => (w.cons c, last)
termination_by here.rest.length
decreasing_by all_goals (simp only [List.length_cons]; omega)

/-- Whether a number is written here: a digit, or a point and a digit. -/
def startsNumber : List Char → Bool
  | c :: rest => c.isDigit || (c == '.' && rest.head?.any Char.isDigit)
  | [] => false

/-- The number at the cursor, if there is one. It runs as far as digits and points do, and a word
must end after it. -/
def number (here : Cursor) : Except LexError (Option Single × Cursor) :=
  if startsNumber here.rest then
    let digits := here.rest.takeWhile fun c => c.isDigit || c == '.'
    let text := String.ofList digits
    let next : Cursor := ⟨here.offset + digits.length, here.rest.drop digits.length⟩
    match next.rest.head?.filter (!endsWord false ·), Decimal.read? digits with
    | some c, _ => .error (.afterNumber c text next.offset)
    | none, none => .error (.invalidNumber text here.offset)
    | none, some numeral =>
      let value := Single.ofDecimal numeral
      if value.isFinite then .ok (some value, next)
      else .error (.numberOutOfRange text here.offset)
  else .ok (none, here)

/-- The tokens of one character outside of ranges. -/
def sign? : Char → Option Token.Kind
  | '(' => some .leftParen
  | ')' => some .rightParen
  | '[' => some .leftBracket
  | ']' => some .rightBracket
  | '{' => some .leftBrace
  | '}' => some .rightBrace
  | '+' => some .plus
  | '-' => some .minus
  | '!' => some .not
  | _ => none

/-- A token that was read, the offset of the bracket if a range is open after it, and the text
left. -/
structure Step where
  kind : Token.Kind
  range : Option Nat
  next : Cursor
deriving DecidableEq

/-- The token outside of ranges that starts with `c`. -/
def queryToken (offset : Nat) (c : Char) (rest : List Char) : Except LexError Step :=
  match sign? c with
  | some kind => .ok ⟨kind, if kind.opensRange then some offset else none, ⟨offset + 1, rest⟩⟩
  | none =>
    if c = '&' ∧ rest.head? = some '&' then .ok ⟨.and, none, ⟨offset + 2, rest.tail⟩⟩
    else if c = '|' ∧ rest.head? = some '|' then .ok ⟨.or, none, ⟨offset + 2, rest.tail⟩⟩
    else if c = '"' then
      (quoted offset ⟨offset + 1, rest⟩).map fun (text, next) =>
        ⟨.phrase (String.ofList text), none, next⟩
    else if c = '^' then
      (number ⟨offset + 1, rest⟩).map fun (value, next) => ⟨.caret value, none, next⟩
    else if c = '~' then
      (number ⟨offset + 1, rest⟩).map fun (value, next) => ⟨.tilde value, none, next⟩
    else if c = ':' then .error (.bareColon offset)
    else
      (word false ⟨offset, c :: rest⟩).map fun (w, next) =>
        if next.rest.head? = some ':' then
          ⟨.field (String.ofList w.text), none, ⟨next.offset + 1, next.rest.tail⟩⟩
        else ⟨w.queryKind, none, next⟩

/-- The token that starts with `c` in the range opened at `start`. -/
def rangeToken (start offset : Nat) (c : Char) (rest : List Char) : Except LexError Step :=
  if c = ']' then .ok ⟨.rightBracket, none, ⟨offset + 1, rest⟩⟩
  else if c = '}' then .ok ⟨.rightBrace, none, ⟨offset + 1, rest⟩⟩
  else if c = '"' then
    (quoted offset ⟨offset + 1, rest⟩).map fun (text, next) =>
      ⟨.phrase (String.ofList text), some start, next⟩
  else
    (word true ⟨offset, c :: rest⟩).map fun (w, next) => ⟨w.rangeKind, some start, next⟩

/-- The token that starts with `c`. -/
def token (range : Option Nat) (offset : Nat) (c : Char) (rest : List Char) :
    Except LexError Step :=
  match range with
  | none => queryToken offset c rest
  | some start => rangeToken start offset c rest

/-- Skips white space. -/
def skipBlanks (here : Cursor) : Cursor :=
  ⟨here.offset + (here.rest.takeWhile isBlank).length, here.rest.dropWhile isBlank⟩

theorem quoted_shorter {start : Nat} {here : Cursor} {text : List Char} {next : Cursor}
    (h : quoted start here = .ok (text, next)) : next.rest.length < here.rest.length := by
  fun_induction quoted start here generalizing text next with
  | case1 => cases h
  | case2 =>
    cases h
    exact Nat.lt_succ_self _
  | case3 => cases h
  | case4 offset rest e mid hmid hlt _ ih =>
    obtain ⟨⟨t, last⟩, hq, heq⟩ := Except.map_eq_ok_iff.mp h
    cases heq
    exact Nat.lt_succ_of_lt (Nat.lt_trans (ih hq) hlt)
  | case5 offset c rest _ _ ih =>
    obtain ⟨⟨t, last⟩, hq, heq⟩ := Except.map_eq_ok_iff.mp h
    cases heq
    exact Nat.lt_succ_of_lt (ih hq)

theorem word_shorter {inRange : Bool} {here : Cursor} {w : Word} {next : Cursor}
    (h : word inRange here = .ok (w, next)) : next.rest.length ≤ here.rest.length := by
  fun_induction word inRange here generalizing w next with
  | case1 =>
    cases h
    exact Nat.le_refl _
  | case2 =>
    cases h
    exact Nat.le_refl _
  | case3 => cases h
  | case4 offset rest e mid hmid hlt _ ih =>
    obtain ⟨⟨t, last⟩, hq, heq⟩ := Except.map_eq_ok_iff.mp h
    cases heq
    exact Nat.le_succ_of_le (Nat.le_of_lt (Nat.lt_of_le_of_lt (ih hq) hlt))
  | case5 offset c rest _ _ ih =>
    obtain ⟨⟨t, last⟩, hq, heq⟩ := Except.map_eq_ok_iff.mp h
    cases heq
    exact Nat.le_succ_of_le (ih hq)

/-- A word that starts with a character of words is not empty. -/
theorem word_cons_shorter {inRange : Bool} {offset : Nat} {c : Char} {rest : List Char} {w : Word}
    {next : Cursor} (hc : endsWord inRange c = false)
    (h : word inRange ⟨offset, c :: rest⟩ = .ok (w, next)) : next.rest.length ≤ rest.length := by
  unfold word at h
  simp only [hc, Bool.false_eq_true, ↓reduceIte] at h
  split at h
  · split at h
    · cases h
    · rename_i e mid hmid
      obtain ⟨⟨t, last⟩, hq, heq⟩ := Except.map_eq_ok_iff.mp h
      cases heq
      exact Nat.le_of_lt (Nat.lt_of_le_of_lt (word_shorter hq) (escape_shorter hmid))
  · obtain ⟨⟨t, last⟩, hq, heq⟩ := Except.map_eq_ok_iff.mp h
    cases heq
    exact word_shorter hq

theorem number_shorter {here : Cursor} {value : Option Single} {next : Cursor}
    (h : number here = .ok (value, next)) : next.rest.length ≤ here.rest.length := by
  unfold number at h
  dsimp only at h
  split at h
  · split at h
    · cases h
    · cases h
    · split at h
      · cases h
        exact (List.drop_sublist _ _).length_le
      · cases h
  · cases h
    exact Nat.le_refl _

/-- Outside of ranges every character that ends a word is a token or starts one. -/
theorem endsWord_false_eq_false {c : Char} (hb : isBlank c = false) (hs : sign? c = none)
    (hq : c ≠ '"') (hcaret : c ≠ '^') (htilde : c ≠ '~') (hcolon : c ≠ ':') :
    endsWord false c = false := by
  have hsign : c ≠ '(' ∧ c ≠ ')' ∧ c ≠ '[' ∧ c ≠ ']' ∧ c ≠ '{' ∧ c ≠ '}' := by
    refine ⟨?_, ?_, ?_, ?_, ?_, ?_⟩ <;> rintro rfl <;> simp [sign?] at hs
  simp [endsWord, hb, hq, hcaret, htilde, hcolon, hsign]

theorem queryToken_shorter {offset : Nat} {c : Char} {rest : List Char} {s : Step}
    (hb : isBlank c = false) (h : queryToken offset c rest = .ok s) :
    s.next.rest.length ≤ rest.length := by
  unfold queryToken at h
  split at h
  · cases h
    exact Nat.le_refl _
  · rename_i hs
    split at h
    · cases h
      exact (List.tail_sublist rest).length_le
    split at h
    · cases h
      exact (List.tail_sublist rest).length_le
    split at h
    · obtain ⟨⟨t, last⟩, hq, heq⟩ := Except.map_eq_ok_iff.mp h
      cases heq
      exact Nat.le_of_lt (quoted_shorter hq)
    split at h
    · obtain ⟨⟨t, last⟩, hq, heq⟩ := Except.map_eq_ok_iff.mp h
      cases heq
      exact number_shorter hq
    split at h
    · obtain ⟨⟨t, last⟩, hq, heq⟩ := Except.map_eq_ok_iff.mp h
      cases heq
      exact number_shorter hq
    split at h
    · cases h
    · obtain ⟨⟨w, last⟩, hq, heq⟩ := Except.map_eq_ok_iff.mp h
      have hle := word_cons_shorter (endsWord_false_eq_false hb hs ‹_› ‹_› ‹_› ‹_›) hq
      dsimp only at heq
      split at heq <;> cases heq
      · exact Nat.le_trans (List.tail_sublist _).length_le hle
      · exact hle

theorem rangeToken_shorter {start offset : Nat} {c : Char} {rest : List Char} {s : Step}
    (hb : isBlank c = false) (h : rangeToken start offset c rest = .ok s) :
    s.next.rest.length ≤ rest.length := by
  unfold rangeToken at h
  split at h
  · cases h
    exact Nat.le_refl _
  split at h
  · cases h
    exact Nat.le_refl _
  split at h
  · obtain ⟨⟨t, last⟩, hq, heq⟩ := Except.map_eq_ok_iff.mp h
    cases heq
    exact Nat.le_of_lt (quoted_shorter hq)
  · obtain ⟨⟨w, last⟩, hq, heq⟩ := Except.map_eq_ok_iff.mp h
    cases heq
    refine word_cons_shorter ?_ hq
    simp_all [endsWord]

/-- A token takes its first character from the text. -/
theorem token_shorter {range : Option Nat} {offset : Nat} {c : Char} {rest : List Char} {s : Step}
    (hb : isBlank c = false) (h : token range offset c rest = .ok s) :
    s.next.rest.length ≤ rest.length := by
  cases range with
  | none => exact queryToken_shorter hb h
  | some start => exact rangeToken_shorter hb h

theorem skipBlanks_shorter (here : Cursor) :
    (skipBlanks here).rest.length ≤ here.rest.length :=
  (List.dropWhile_sublist isBlank).length_le

theorem isBlank_of_skipBlanks {here : Cursor} {c : Char} {rest : List Char}
    (h : (skipBlanks here).rest = c :: rest) : isBlank c = false := by
  have := List.head?_dropWhile_not isBlank here.rest
  simp only [skipBlanks] at h
  simpa [h] using this

theorem next_shorter {range : Option Nat} {here : Cursor} {c : Char} {rest : List Char} {s : Step}
    (h : (skipBlanks here).rest = c :: rest)
    (hs : token range (skipBlanks here).offset c rest = .ok s) :
    s.next.rest.length < here.rest.length := by
  have hle := skipBlanks_shorter here
  rw [h, List.length_cons] at hle
  exact Nat.lt_of_le_of_lt (token_shorter (isBlank_of_skipBlanks h) hs) hle

/-- The tokens of the text left, where `range` is the offset of the bracket of an open range. -/
def tokens (range : Option Nat) (here : Cursor) : Except LexError (List Token) :=
  match h : (skipBlanks here).rest with
  | [] =>
    match range with
    | some start => .error (.unterminatedRange start)
    | none => .ok []
  | c :: rest =>
    match hs : token range (skipBlanks here).offset c rest with
    | .error e => .error e
    | .ok step =>
      have := next_shorter h hs
      (tokens step.range step.next).map (⟨step.kind, (skipBlanks here).offset⟩ :: ·)
termination_by here.rest.length

end SearchQuery.Lexer

namespace SearchQuery

/-- Cuts a query text into tokens. -/
def tokenize (text : String) : Except LexError (List Token) :=
  Lexer.tokens none ⟨0, text.toList⟩

end SearchQuery
