import SearchQuery.Analysis
import SearchQuery.Query.Operand

/-!
From a tree to a query. The words of terms and phrases go through the analyzer; patterns, fuzzy
terms and bounds do not. An operand of which analysis leaves nothing is dropped.
-/

namespace SearchQuery

open Number (Single)

namespace Config

/-- The text of a pattern, a fuzzy term or a bound. -/
def expand (config : Config) (text : String) : String :=
  if config.lowercaseExpandedTerms then Text.lower text else text

end Config

namespace Leaf

/-- The leaf of analyzed terms. Only several of them have a slop. -/
def ofTerms? (field : String) (slop : UInt32) : List String → Option Leaf
  | [] => none
  | [text] => some (term field text)
  | terms => some (phrase field terms slop)

/-- The leaf of an atom in a field, if analysis leaves any term. -/
def ofAtom? (analyzer : Analyzer) (config : Config) (field : String) :
    Atom → Except Error (Option Leaf)
  | .term text => (analyzer.analyze field text).map (ofTerms? field 0)
  | .phrase text slop =>
    (analyzer.analyze field text).map (ofTerms? field (slop.getD config.phraseSlop))
  | .wildcard pattern =>
    .ok <| some <|
      if field = "*" ∧ pattern = "*" then matchAll else wildcard field (config.expand pattern)
  | .fuzzy text similarity =>
    .ok <| some <|
      fuzzy field (config.expand text) (similarity.getD config.fuzzyMinSimilarity)
        config.fuzzySharedLength
  | .range lower upper includeLower includeUpper =>
    .ok <| some <|
      range field (lower.map config.expand) (upper.map config.expand) includeLower includeUpper

end Leaf

namespace Operand

mutual

/-- The operand of a tree, whose atoms without a field belong to `field`. -/
def ofTree (analyzer : Analyzer) (config : Config) (field : String) :
    Tree → Except Error Operand
  | .atom own atom =>
    (Leaf.ofAtom? analyzer config (own.getD field) atom).map fun leaf =>
      { query := leaf.map (Query.leaf · Single.one) }
  | .scope inner child => ofTree analyzer config inner child
  | .boost value child =>
    match ofTree analyzer config field child with
    | .error e => .error e
    | .ok u => (u.boost value).mapError Error.grammatical
  | .required child => (ofTree analyzer config field child).map require
  | .prohibited child => (ofTree analyzer config field child).map prohibit
  | .group junction children =>
    (ofTrees analyzer config field children).map (group junction)

/-- The operands of trees, in order. -/
def ofTrees (analyzer : Analyzer) (config : Config) (field : String) :
    List Tree → Except Error (List Operand)
  | [] => .ok []
  | tree :: rest =>
    match ofTree analyzer config field tree with
    | .error e => .error e
    | .ok u => (ofTrees analyzer config field rest).map (u :: ·)

end

end Operand

namespace Query

/-- The query of a tree, if it has no more clauses than allowed. -/
def ofTree (analyzer : Analyzer) (config : Config) (field : String) (tree : Tree) :
    Except Error Query :=
  match Operand.ofTree analyzer config field tree with
  | .error e => .error e
  | .ok u =>
    let query := u.toQuery
    if query.clauseCount ≤ config.maxClauseCount.toNat then .ok query
    else .error (.tooManyClauses config.maxClauseCount.toNat query.clauseCount)

end Query

end SearchQuery
