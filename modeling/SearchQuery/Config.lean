import SearchQuery.Error
import SearchQuery.Query
import SearchQuery.Tree

/-!
The settings of a parser.
-/

namespace SearchQuery

open Number (Single)

namespace Operator

/-- What an operand without a sign is, under a default operator. -/
def occur : Operator → Occur
  | and => .must
  | or => .should

end Operator

/-- The settings of a parser. -/
structure Config where
  /-- Joins operands that are written side by side. -/
  defaultOperator : Operator := .or
  /-- The largest number of clauses of a query, counting those within its clauses. -/
  maxClauseCount : UInt64 := 1024
  /-- The largest number of groups and signs around an operand. -/
  maxDepth : UInt64 := 64
  /-- The similarity of a fuzzy term without one of its own. -/
  fuzzyMinSimilarity : Single := Single.half
  /-- How many first characters a fuzzy match shares with the term. -/
  fuzzySharedLength : UInt32 := 0
  /-- The slop of a quoted phrase without one of its own. -/
  phraseSlop : UInt32 := 0
  /-- Whether patterns, fuzzy terms and bounds, which are not analyzed, are lower-cased. -/
  lowercaseExpandedTerms : Bool := true
  /-- Whether each parse logs its tree. -/
  debugTrace : Bool := false
deriving DecidableEq

namespace Config

/-- The first setting that a parser cannot work with. -/
def validate (c : Config) : Except ConfigError Unit :=
  if c.maxClauseCount = 0 then .error .zeroClauseCount
  else if c.maxDepth = 0 then .error .zeroDepth
  else if c.fuzzyMinSimilarity.inUnitInterval then .ok ()
  else .error (.similarity c.fuzzyMinSimilarity)

/-- Equality with similarities compared as numbers. -/
def same (a b : Config) : Bool :=
  a.fuzzyMinSimilarity.numEq b.fuzzyMinSimilarity &&
    a == { b with fuzzyMinSimilarity := a.fuzzyMinSimilarity }

end Config

end SearchQuery
