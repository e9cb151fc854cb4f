import SearchQuery.Json

/-!
JSON values as compact text.
-/

namespace SearchQuery.Json

/-- A character of a string. -/
def escapeChar (c : Char) : List Char :=
  match c with
  | '"' => ['\\', '"']
  | '\\' => ['\\', '\\']
  | '\x08' => ['\\', 'b']
  | '\t' => ['\\', 't']
  | '\n' => ['\\', 'n']
  | '\x0c' => ['\\', 'f']
  | '\r' => ['\\', 'r']
  | c =>
    if c < ' ' then ['\\', 'u'] ++ (Nat.toDigits 16 c.toNat).leftpad 4 '0' else [c]

/-- A string. One that holds no characters is written as the lone surrogate that it must hold. -/
def Content.spelling : Content → List Char
  | some s => '"' :: s.toList.flatMap escapeChar ++ ['"']
  | none => "\"\\ud800\"".toList

/-- The mark of an exponent and its sign. -/
def ExponentSign.spelling : ExponentSign → List Char
  | .none => ['e']
  | .plus => ['e', '+']
  | .minus => ['e', '-']

/-- A number. -/
def Numeral.spelling (n : Numeral) : List Char :=
  (if n.negative then ['-'] else []) ++ n.whole ++
    (if n.fraction.isEmpty then [] else '.' :: n.fraction) ++
    (match n.exponent with
    | some (sign, digits) => sign.spelling ++ digits
    | none => [])

mutual

/-- The characters of a value. -/
def spelling : Json → List Char
  | null => "null".toList
  | bool true => "true".toList
  | bool false => "false".toList
  | number n => n.spelling
  | string s => s.spelling
  | array items => '[' :: [','].intercalate (itemSpellings items) ++ [']']
  | object members => '{' :: [','].intercalate (memberSpellings members) ++ ['}']

def itemSpellings : List Json → List (List Char)
  | [] => []
  | item :: rest => spelling item :: itemSpellings rest

def memberSpellings : List (Content × Json) → List (List Char)
  | [] => []
  | (name, value) :: rest => (name.spelling ++ ':' :: spelling value) :: memberSpellings rest

end

/-- The text of a value. -/
def render (json : Json) : String := String.ofList json.spelling

end SearchQuery.Json
