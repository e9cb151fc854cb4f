import SearchQuery.Number.Single

/-!
Queries: leaves that test a document, and boolean combinations of them. Every query has a boost,
the factor its score is multiplied by.
-/

namespace SearchQuery

open Number (Single)

/-- What a clause asks of a document. -/
inductive Occur
  | must
  | should
  | mustNot
deriving DecidableEq

/-- A query without clauses, its boost apart. -/
inductive Leaf
  /-- The field holds the term. -/
  | term (field text : String)
  /-- The field holds the terms in order, up to `slop` positions apart. -/
  | phrase (field : String) (terms : List String) (slop : UInt32)
  /-- The field holds a term that is similar, with the same first characters. -/
  | fuzzy (field term : String) (similarity : Single) (sharedLength : UInt32)
  /-- The field holds a term that the pattern matches. -/
  | wildcard (field pattern : String)
  /-- The field holds a term between the bounds. An absent bound is open. -/
  | range (field : String) (lower upper : Option String) (includeLower includeUpper : Bool)
  | matchAll
deriving DecidableEq

/-- A part of a boolean query. -/
structure Clause (Q : Type) where
  occur : Occur
  query : Q

/-- A query. -/
inductive Query
  | leaf (leaf : Leaf) (boost : Single)
  | boolean (clauses : List (Clause Query)) (boost : Single)

namespace Leaf

/-- The field a leaf looks at. -/
def field? : Leaf → Option String
  | term field _ | phrase field .. | fuzzy field .. | wildcard field _ => some field
  | range field .. => some field
  | matchAll => none

/-- Equality with similarities compared as numbers. -/
def same : Leaf → Leaf → Bool
  | fuzzy f t s n, fuzzy f' t' s' n' => f == f' && t == t' && s.numEq s' && n == n'
  | a, b => a == b

end Leaf

namespace Query

def boost : Query → Single
  | leaf _ b | boolean _ b => b

def withBoost (b : Single) : Query → Query
  | leaf l _ => leaf l b
  | boolean clauses _ => boolean clauses b

def field? : Query → Option String
  | leaf l _ => l.field?
  | boolean .. => none

def isBoolean : Query → Bool
  | leaf .. => false
  | boolean .. => true

/-- The boolean query without clauses. -/
def empty : Query := boolean [] Single.one

/-- The boolean query of the given clauses. -/
def ofClauses (clauses : List (Clause Query)) : Query := boolean clauses Single.one

mutual

/-- The number of clauses of a query and of all queries within it. -/
def clauseCount : Query → Nat
  | leaf .. => 0
  | boolean clauses _ => countClauses clauses

/-- The number of the given clauses and of those within them. -/
def countClauses : List (Clause Query) → Nat
  | [] => 0
  | ⟨_, query⟩ :: rest => 1 + clauseCount query + countClauses rest

end

mutual

/-- Equality with boosts and similarities compared as numbers. -/
def same : Query → Query → Bool
  | leaf l b, leaf l' b' => l.same l' && b.numEq b'
  | boolean cs b, boolean cs' b' => sameClauses cs cs' && b.numEq b'
  | _, _ => false

/-- Equality of clauses in order. -/
def sameClauses : List (Clause Query) → List (Clause Query) → Bool
  | [], [] => true
  | ⟨o, q⟩ :: rest, ⟨o', q'⟩ :: rest' => o == o' && same q q' && sameClauses rest rest'
  | _, _ => false

end

end Query

/-- Whether every clause is optional. -/
def isDisjunction (clauses : List (Clause Query)) : Bool := clauses.all (·.occur == .should)

end SearchQuery
