import SearchQuery.Config
import SearchQuery.Json.Decode
import SearchQuery.Json.Reader
import SearchQuery.Json.Writer

/-!
Configurations as JSON. Settings that are not stored have their default values.
-/

namespace SearchQuery

namespace Operator

/-- The operator with a name. -/
def ofName? (name : String) : Option Operator := [and, or].find? (·.name == name)

/-- Reads an operator. -/
def ofJson? (depth : Nat) (json : Json) : Option Operator := (json.choice? depth).bind ofName?

end Operator

namespace Config

/-- The JSON of a configuration. -/
def toJson (c : Config) : Json :=
  .record
    [("default_operator", .ofString c.defaultOperator.name),
      ("max_clause_count", .ofNat c.maxClauseCount.toNat),
      ("max_depth", .ofNat c.maxDepth.toNat),
      ("fuzzy_min_similarity", .ofSingle c.fuzzyMinSimilarity),
      ("fuzzy_prefix_length", .ofNat c.fuzzySharedLength.toNat),
      ("phrase_slop", .ofNat c.phraseSlop.toNat),
      ("lowercase_expanded_terms", .bool c.lowercaseExpandedTerms),
      ("debug_trace", .bool c.debugTrace)]

/-- A setting, which keeps its default if it is missing. -/
def setting? {α : Type} (read : Json → Option α) (default : α) : Option Json → Option α
  | none => some default
  | some json => read json

/-- Reads a configuration. -/
def ofJson? (json : Json) : Option Config := do
  let depth ← Json.enter? Json.maxDepth
  match ← json.fields?
      ["default_operator", "max_clause_count", "max_depth", "fuzzy_min_similarity",
        "fuzzy_prefix_length", "phrase_slop", "lowercase_expanded_terms", "debug_trace"] with
  | [operator, clauseCount, maxDepth, similarity, sharedLength, slop, lowercase, trace] =>
    let default : Config := {}
    return {
      defaultOperator := ← setting? (Operator.ofJson? depth) default.defaultOperator operator
      maxClauseCount := ← setting? Json.word64? default.maxClauseCount clauseCount
      maxDepth := ← setting? Json.word64? default.maxDepth maxDepth
      fuzzyMinSimilarity := ← setting? Json.single? default.fuzzyMinSimilarity similarity
      fuzzySharedLength := ← setting? Json.word32? default.fuzzySharedLength sharedLength
      phraseSlop := ← setting? Json.word32? default.phraseSlop slop
      lowercaseExpandedTerms := ← setting? Json.bool? default.lowercaseExpandedTerms lowercase
      debugTrace := ← setting? Json.bool? default.debugTrace trace }
  | _ => none

/-- Stores a configuration as text. -/
def encode (c : Config) : String := c.toJson.render

/-- Reads a stored configuration. -/
def decode? (text : String) : Option Config := (Json.read? text).bind ofJson?

/-- Reads a stored configuration that a parser can work with. -/
def load (text : String) : Except Error Config :=
  match decode? text with
  | none => .error (.config .undecodable)
  | some config =>
    match config.validate with
    | .error e => .error (.config e)
    | .ok () => .ok config

end Config

end SearchQuery
