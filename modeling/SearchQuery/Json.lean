/-!
JSON values. Numbers are kept as they are written, because what they stand for depends on the type
that is read from them.
-/

namespace SearchQuery

namespace Json

/-- The sign that is written in an exponent. -/
inductive ExponentSign
  | none
  | plus
  | minus
deriving DecidableEq

/-- A number as it is written, by its digits. -/
structure Numeral where
  negative : Bool := false
  whole : List Char
  /-- The digits after the point. There is no point without digits. -/
  fraction : List Char := []
  exponent : Option (ExponentSign × List Char) := Option.none
deriving DecidableEq

/-- The characters of a string, absent if its escapes do not form characters. -/
abbrev Content := Option String

end Json

/-- A JSON value. The members of an object keep their order, and a name may occur twice. -/
inductive Json
  | null
  | bool (value : Bool)
  | number (numeral : Json.Numeral)
  | string (content : Json.Content)
  | array (items : List Json)
  | object (members : List (Json.Content × Json))

namespace Json

/-- The string of characters. -/
def ofString (s : String) : Json := string (some s)

/-- The number of a natural number. -/
def ofNat (n : Nat) : Json := number { whole := Nat.toDigits 10 n }

/-- An object with the given names. -/
def record (members : List (String × Json)) : Json :=
  object (members.map fun (name, value) => (some name, value))

end Json

end SearchQuery
