import SearchQuery.Json.Symbol

/-!
From symbols to values. The reader walks over the symbols once and keeps the open arrays and objects
on a stack, so that it reads values of any depth.
-/

namespace SearchQuery.Json

/-- An array or object that is not closed yet. What it holds already is kept last first. -/
inductive Frame
  | array (items : List Json)
  /-- The value of `name` is being read. -/
  | object (members : List (Content × Json)) (name : Content)

/-- What the reader has just seen, or is waiting for. -/
inductive Mode
  /-- A value must come. -/
  | value
  /-- A value or the end of an array must come. -/
  | firstItem
  /-- A name must come, after the given members. -/
  | name (members : List (Content × Json))
  /-- A name or the end of an object must come. -/
  | firstName
  /-- A colon must come, after a name and the members before it. -/
  | colon (members : List (Content × Json)) (name : Content)
  /-- A value is complete. -/
  | complete (json : Json)

/-- The mode after the first symbol of a value. -/
def Mode.start? : Symbol → Option Mode
  | .leftBrace => some firstName
  | .leftBracket => some firstItem
  | .null => some (complete .null)
  | .bool b => some (complete (.bool b))
  | .number n => some (complete (.number n))
  | .string s => some (complete (.string s))
  | _ => none

/-- Reads on to the end of the symbols. -/
def run? : Mode → List Frame → List Symbol → Option Json
  | .complete json, [], [] => some json
  | .complete json, .array items :: frames, .comma :: rest =>
    run? .value (.array (json :: items) :: frames) rest
  | .complete json, .array items :: frames, .rightBracket :: rest =>
    run? (.complete (.array (json :: items).reverse)) frames rest
  | .complete json, .object members name :: frames, .comma :: rest =>
    run? (.name ((name, json) :: members)) frames rest
  | .complete json, .object members name :: frames, .rightBrace :: rest =>
    run? (.complete (.object ((name, json) :: members).reverse)) frames rest
  | .value, frames, s :: rest =>
    match Mode.start? s with
    | some mode => run? mode frames rest
    | none => none
  | .firstItem, frames, s :: rest =>
    if s = .rightBracket then run? (.complete (.array [])) frames rest
    else
      match Mode.start? s with
      | some mode => run? mode (.array [] :: frames) rest
      | none => none
  | .firstName, frames, .rightBrace :: rest => run? (.complete (.object [])) frames rest
  | .firstName, frames, .string name :: rest => run? (.colon [] name) frames rest
  | .name members, frames, .string name :: rest => run? (.colon members name) frames rest
  | .colon members name, frames, .colon :: rest => run? .value (.object members name :: frames) rest
  | _, _, _ => none

/-- Reads one value that takes up the whole text. -/
def read? (text : String) : Option Json :=
  (Symbol.scan? text.toList).bind (run? .value [])

end SearchQuery.Json
