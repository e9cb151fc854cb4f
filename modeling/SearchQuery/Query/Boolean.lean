import SearchQuery.Query

/-!
Boolean queries as they are put together clause by clause.
-/

namespace SearchQuery

open Number (Single)

/-- The clauses and the boost of a boolean query. -/
structure BooleanQuery where
  clauses : List (Clause Query) := []
  boost : Single := Single.one

namespace BooleanQuery

def toQuery (b : BooleanQuery) : Query := .boolean b.clauses b.boost

/-- Reads the parts of a boolean query. -/
def ofQuery? : Query → Option BooleanQuery
  | .boolean clauses boost => some ⟨clauses, boost⟩
  | .leaf .. => none

/-- Adds a clause at the end. -/
def add (b : BooleanQuery) (occur : Occur) (query : Query) : BooleanQuery :=
  { b with clauses := b.clauses ++ [⟨occur, query⟩] }

def withBoost (b : BooleanQuery) (boost : Single) : BooleanQuery := { b with boost := boost }

/-- The query with this one as its only clause. -/
def wrap (b : BooleanQuery) (occur : Occur) : BooleanQuery := add {} occur b.toQuery

/-- Adds the query to itself. -/
def duplicate (b : BooleanQuery) (occur : Occur) : BooleanQuery := b.add occur b.toQuery

/-- The clauses in reverse order, without the boost. -/
def reverse (b : BooleanQuery) : BooleanQuery := { clauses := b.clauses.reverse }

def isEmpty (b : BooleanQuery) : Bool := b.clauses.isEmpty

def isDisjunction (b : BooleanQuery) : Bool := SearchQuery.isDisjunction b.clauses

end BooleanQuery

end SearchQuery
