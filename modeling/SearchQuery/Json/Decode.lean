import SearchQuery.Json.Number

/-!
Reading typed values from JSON. Arrays and objects may nest up to a depth, which counts those that
are read and not those that are skipped.
-/

namespace SearchQuery.Json

open Number (Single)

/-- How deep the arrays and objects that are read may nest. -/
def maxDepth : Nat := 127

/-- The depth left within an array or object. -/
def enter? : Nat → Option Nat
  | 0 => none
  | depth + 1 => some depth

def text? : Json → Option String
  | string s => s
  | _ => none

def bool? : Json → Option Bool
  | bool b => some b
  | _ => none

/-- A natural number below a bound, written without sign, point and exponent. -/
def natBelow? (bound : Nat) : Json → Option Nat
  | number n => if n.negative then none else n.natural?.filter (· < bound)
  | _ => none

def word32? (json : Json) : Option UInt32 := (json.natBelow? UInt32.size).map UInt32.ofNat

def word64? (json : Json) : Option UInt64 := (json.natBelow? UInt64.size).map UInt64.ofNat

def single? : Json → Option Single
  | number n => n.single?
  | _ => none

/-- A value that may be missing or null. -/
def optional? {α : Type} (read : Json → Option α) : Option Json → Option (Option α)
  | none | some null => some none
  | some json => (read json).map some

/-- A list of values. -/
def list? {α : Type} (read : Json → Option α) : Json → Option (List α)
  | array items => items.mapM read
  | _ => none

/-- The name of a choice without parts: a string, or an object with null under the name. -/
def choice? (depth : Nat) : Json → Option String
  | string s => s
  | object [(name, null)] => if depth = 0 then none else name
  | _ => none

/-- The members of a record by their names: of an object in any order, with names that are not
asked for skipped, or of an array in the given order. No name that is asked for may occur twice. -/
def fields? (names : List String) : Json → Option (List (Option Json))
  | object members =>
    if members.all (·.1.isSome) ∧
        names.all (fun name => (members.filter (·.1 == some name)).length ≤ 1) then
      some (names.map fun name => members.lookup (some name))
    else none
  | array items =>
    if items.length ≤ names.length then
      some (items.map some ++ List.replicate (names.length - items.length) none)
    else none
  | _ => none

/-- The members of a record of which, as an array, none may be missing. -/
def allFields? (names : List String) (json : Json) : Option (List (Option Json)) :=
  match json with
  | array items => if items.length = names.length then json.fields? names else none
  | _ => json.fields? names

end SearchQuery.Json
