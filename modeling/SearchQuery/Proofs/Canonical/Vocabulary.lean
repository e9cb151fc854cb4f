import SearchQuery.Proofs.Lexer.Escaping
import SearchQuery.Proofs.Number.Product
import SearchQuery.Query.OfTree

/-!
The queries whose canonical text says all of them, and the trees that such texts are read as.
-/

namespace SearchQuery

attribute [local instance (high)] instPowNat

open Lexer (isWild isPattern isBound phraseText)
open Number (Single)
open Text (isBlank)

/-- A text that is not analyzed and comes out as it went in. -/
def Config.Keeps (config : Config) (text : String) : Prop := config.expand text = text

instance (config : Config) (text : String) : Decidable (config.Keeps text) :=
  inferInstanceAs (Decidable (config.expand text = text))

/-- The leaves whose text says all of them to a parser with the given settings. -/
inductive Leaf.Renderable (config : Config) : Leaf → Prop
  | term {field text : String} (field_ne : field ≠ "") (text_ne : text ≠ "")
      (word : ∀ c ∈ text.toList, isBlank c = false ∧ isWild c = false) :
      Renderable config (.term field text)
  | phrase {field : String} {terms : List String} {slop : UInt32} (field_ne : field ≠ "")
      (several : 2 ≤ terms.length)
      (words : ∀ text ∈ terms, text ≠ "" ∧ ∀ c ∈ text.toList, isBlank c = false)
      (small : slop.toNat ≤ 2 ^ (24 : Nat)) (silent : slop = 0 → config.phraseSlop = 0) :
      Renderable config (.phrase field terms slop)
  | fuzzy {field text : String} {similarity : Single} (field_ne : field ≠ "") (text_ne : text ≠ "")
      (word : ∀ c ∈ text.toList, isWild c = false) (unsigned : similarity.isUnsigned = true)
      (interval : similarity.inUnitInterval = true) (kept : config.Keeps text) :
      Renderable config (.fuzzy field text similarity config.fuzzySharedLength)
  | wildcard {field pattern : String} (field_ne : field ≠ "") (valid : isPattern pattern = true)
      (single : ¬ (field = "*" ∧ pattern = "*")) (kept : config.Keeps pattern) :
      Renderable config (.wildcard field pattern)
  | range {field : String} {lower upper : Option String} {includeLower includeUpper : Bool}
      (field_ne : field ≠ "")
      (bounds : ∀ text, lower = some text ∨ upper = some text →
        isBound text = true ∧ config.Keeps text) :
      Renderable config (.range field lower upper includeLower includeUpper)
  | matchAll : Renderable config .matchAll

namespace Query

/-- The queries that can be a clause of a query whose text says all of it. -/
inductive Renderable (config : Config) : Query → Prop
  | leaf {l : Leaf} {boost : Single} (vocabulary : l.Renderable config)
      (unsigned : boost.isUnsigned = true) : Renderable config (.leaf l boost)
  | boolean {clauses : List (Clause Query)} {boost : Single} (several : 2 ≤ clauses.length)
      (all : ∀ c ∈ clauses, Renderable config c.query) (unsigned : boost.isUnsigned = true) :
      Renderable config (.boolean clauses boost)

/-- The queries whose text says all of them. A query alone may also be a single prohibition. -/
inductive Expressible (config : Config) : Query → Prop
  | query {q : Query} (renderable : q.Renderable config) : Expressible config q
  | prohibition {q : Query} (renderable : q.Renderable config) :
      Expressible config (.ofClauses [⟨.mustNot, q⟩])

mutual

/-- How deep parentheses and signs nest in the canonical text. -/
def nesting : Query → Nat
  | leaf .. => 0
  | boolean clauses boost => (if boost.numEq Single.one then 0 else 1) + clauseNesting clauses

/-- How deep they nest in the texts of clauses, with the sign and the parentheses of each. -/
def clauseNesting : List (Clause Query) → Nat
  | [] => 0
  | ⟨occur, query⟩ :: rest =>
    max (occur.sign.length + (if query.isBoolean then 1 else 0) + nesting query)
      (clauseNesting rest)

end

end Query

/-- Puts a sign before a tree. -/
def Occur.mark : Occur → Tree → Tree
  | must, tree => .required tree
  | should, tree => tree
  | mustNot, tree => .prohibited tree

/-- Puts a boost around a tree unless it is one. -/
def Tree.boostedBy (boost : Single) (tree : Tree) : Tree :=
  if boost.numEq Single.one then tree else .boost boost tree

/-- The tree of the text of a leaf. -/
def Leaf.toTree : Leaf → Tree
  | term field text => .atom (some field) (.term text)
  | phrase field terms slop =>
    .atom (some field) (.phrase (phraseText terms) (if slop = 0 then none else some slop))
  | fuzzy field text similarity _ => .atom (some field) (.fuzzy text (some similarity))
  | wildcard field pattern => .atom (some field) (.wildcard pattern)
  | range field lower upper includeLower includeUpper =>
    .atom (some field) (.range lower upper includeLower includeUpper)
  | matchAll => .atom (some "*") (.wildcard "*")

namespace Query

mutual

/-- The tree of the canonical text. -/
def toTree : Query → Tree
  | leaf l boost => l.toTree.boostedBy boost
  | boolean clauses boost =>
    Tree.boostedBy boost (.group (.implicit .or) (clauseTrees clauses))

/-- The trees of the texts of clauses. -/
def clauseTrees : List (Clause Query) → List Tree
  | [] => []
  | ⟨occur, query⟩ :: rest => occur.mark (toTree query) :: clauseTrees rest

end

end Query

end SearchQuery
