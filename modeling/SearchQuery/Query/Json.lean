import SearchQuery.Json.Decode
import SearchQuery.Json.Reader
import SearchQuery.Json.Writer
import SearchQuery.Query

/-!
Queries as JSON. A query is an object with one member, named for its kind.
-/

namespace SearchQuery

open Number (Single)

namespace Occur

def jsonName : Occur → String
  | must => "Must"
  | should => "Should"
  | mustNot => "MustNot"

/-- The occurrence with a name. -/
def ofJsonName? (name : String) : Option Occur :=
  [must, should, mustNot].find? (·.jsonName == name)

end Occur

namespace Leaf

def jsonName : Leaf → String
  | term .. => "Term"
  | phrase .. => "Phrase"
  | fuzzy .. => "Fuzzy"
  | wildcard .. => "Wildcard"
  | range .. => "Range"
  | matchAll => "MatchAll"

/-- The members of a leaf other than its boost. -/
def jsonMembers : Leaf → List (String × Json)
  | term field text => [("field", .ofString field), ("text", .ofString text)]
  | phrase field terms slop =>
    [("field", .ofString field), ("terms", .array (terms.map .ofString)),
      ("slop", .ofNat slop.toNat)]
  | fuzzy field text similarity sharedLength =>
    [("field", .ofString field), ("term", .ofString text),
      ("min_similarity", .ofSingle similarity), ("prefix_length", .ofNat sharedLength.toNat)]
  | wildcard field pattern => [("field", .ofString field), ("pattern", .ofString pattern)]
  | range field lower upper includeLower includeUpper =>
    [("field", .ofString field), ("lower", (lower.map .ofString).getD .null),
      ("upper", (upper.map .ofString).getD .null), ("include_lower", .bool includeLower),
      ("include_upper", .bool includeUpper)]
  | matchAll => []

/-- Reads the members of a leaf of the given kind, with its boost. -/
def ofJson? (kind : String) (depth : Nat) (body : Json) : Option (Leaf × Single) := do
  let depth ← Json.enter? depth
  match kind with
  | "Term" =>
    match ← body.allFields? ["field", "text", "boost"] with
    | [some field, some text, some boost] =>
      return (term (← field.text?) (← text.text?), ← boost.single?)
    | _ => none
  | "Phrase" =>
    match ← body.allFields? ["field", "terms", "slop", "boost"] with
    | [some field, some terms, some slop, some boost] =>
      let _ ← Json.enter? depth
      return (phrase (← field.text?) (← terms.list? Json.text?) (← slop.word32?), ← boost.single?)
    | _ => none
  | "Fuzzy" =>
    match ← body.allFields? ["field", "term", "min_similarity", "prefix_length", "boost"] with
    | [some field, some text, some similarity, some sharedLength, some boost] =>
      return (fuzzy (← field.text?) (← text.text?) (← similarity.single?) (← sharedLength.word32?),
        ← boost.single?)
    | _ => none
  | "Wildcard" =>
    match ← body.allFields? ["field", "pattern", "boost"] with
    | [some field, some pattern, some boost] =>
      return (wildcard (← field.text?) (← pattern.text?), ← boost.single?)
    | _ => none
  | "Range" =>
    match ← body.allFields? ["field", "lower", "upper", "include_lower", "include_upper", "boost"]
      with
    | [some field, lower, upper, some includeLower, some includeUpper, some boost] =>
      return (range (← field.text?) (← Json.optional? Json.text? lower)
        (← Json.optional? Json.text? upper) (← includeLower.bool?) (← includeUpper.bool?),
        ← boost.single?)
    | _ => none
  | "MatchAll" =>
    match ← body.allFields? ["boost"] with
    | [some boost] => return (matchAll, ← boost.single?)
    | _ => none
  | _ => none

end Leaf

namespace Query

mutual

/-- The JSON of a query. -/
def toJson : Query → Json
  | leaf l boost =>
    .record [(l.jsonName, .record (l.jsonMembers ++ [("boost", .ofSingle boost)]))]
  | boolean clauses boost =>
    .record [("Boolean",
      .record [("clauses", .array (clausesToJson clauses)), ("boost", .ofSingle boost)])]

def clausesToJson : List (Clause Query) → List Json
  | [] => []
  | ⟨occur, query⟩ :: rest =>
    .record [("query", toJson query), ("occur", .ofString occur.jsonName)] :: clausesToJson rest

end

/-- Reads a query whose clauses are read by `clauses?`. -/
def ofJsonWith? (clauses? : List Json → Option (List (Clause Query))) (depth : Nat) :
    Json → Option Query
  | .object [(some kind, body)] => do
    let depth ← Json.enter? depth
    if kind = "Boolean" then
      let depth ← Json.enter? depth
      match ← body.allFields? ["clauses", "boost"] with
      | [some (.array items), some boost] =>
        let _ ← Json.enter? depth
        return boolean (← clauses? items) (← boost.single?)
      | _ => none
    else
      let (l, boost) ← Leaf.ofJson? kind depth body
      return leaf l boost
  | _ => none

/-- Reads a clause whose query is read by `query?`. -/
def clauseOfJson? (query? : Json → Option Query) (depth : Nat) (json : Json) :
    Option (Clause Query) := do
  match ← json.allFields? ["query", "occur"] with
  | [some query, some occur] =>
    return ⟨← Occur.ofJsonName? (← occur.choice? depth), ← query? query⟩
  | _ => none

/-- Reads a query that nests up to a depth. A boolean query within another one is four arrays and
objects further in. -/
def ofJson? : Nat → Json → Option Query
  | depth + 4, json =>
    ofJsonWith? (fun items => items.mapM (clauseOfJson? (ofJson? depth) depth)) (depth + 4) json
  | depth, json => ofJsonWith? (fun items => if items.isEmpty then some [] else none) depth json

/-- Stores a query as text. -/
def encode (query : Query) : String := query.toJson.render

/-- Reads a stored query. -/
def decode? (text : String) : Option Query := (Json.read? text).bind (ofJson? Json.maxDepth)

end Query

end SearchQuery
