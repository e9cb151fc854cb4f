import SearchQuery.Config
import SearchQuery.Query

/-!
Operands on their way from a tree into clauses. Signs, boosts and parentheses around an operand are
collected, and the group around it decides what they mean:

* in most groups the sign of the operand is that of its clause, and boosts multiply into the query
  up to the first negation; if nothing is boosted within that negation, the innermost boost counts;
* in a disjunction a negated operand becomes an optional clause that holds the negation. The
  outermost boost belongs to the negation, and of several the innermost to the operand.
-/

namespace SearchQuery

open Number (Single)

/-- An operand and what is still to be placed around it. -/
structure Operand where
  /-- Absent if analysis left nothing. -/
  query : Option Query
  occur : Option Occur := none
  /-- The boosts around the operand, innermost first. -/
  boosts : List Single := []
  /-- How many boosts are within the innermost negation. -/
  negatedAt : Option Nat := none
  /-- The junction of the group that the query was made from. -/
  junction : Option Junction := none

/-- What an operand without a sign is in a group. -/
def Junction.occur : Junction → Occur
  | and | not => .must
  | or => .should
  | implicit operator => operator.occur

/-- Multiplies the boost of a query. -/
def Query.scale (query : Query) : Option Single → Query
  | some b => query.withBoost (query.boost.mul b)
  | none => query

namespace Operand

def ofQuery (query : Query) : Operand := { query := some query }

def empty : Operand := { query := none }

/-- Puts a boost around the operand. All boosts together must stay finite. -/
def boost (u : Operand) (value : Single) : Except SyntaxError Operand :=
  if (Single.product (u.boosts ++ [value])).isFinite then
    .ok { u with boosts := u.boosts ++ [value] }
  else .error (.combinedBoost value)

/-- Requires the operand, unless it is prohibited. -/
def require (u : Operand) : Operand :=
  if u.occur = some .mustNot then u else { u with occur := some .must }

/-- Prohibits the operand. -/
def prohibit (u : Operand) : Operand :=
  { u with occur := some .mustNot, negatedAt := some (u.negatedAt.getD u.boosts.length) }

/-- The boost that the query takes in a group that is not a disjunction. -/
def bindingBoost (u : Operand) : Option Single :=
  match u.negatedAt with
  | some 0 => u.boosts.head?
  | some n => some (Single.product (u.boosts.take n))
  | none => if u.boosts.isEmpty then none else some (Single.product u.boosts)

/-- The negation of a query with the boosts around it, innermost first. -/
def negation (query : Query) (boosts : List Single) : Query :=
  match boosts with
  | [] => .ofClauses [⟨.mustNot, query⟩]
  | [outer] => .boolean [⟨.mustNot, query⟩] outer
  | inner :: outer :: rest =>
    .boolean [⟨.mustNot, query.scale (some inner)⟩] ((outer :: rest).getLast (by simp))

/-- The clause of an operand in a group. -/
def place (u : Operand) (default : Occur) (disjunctive : Bool) : Option (Clause Query) :=
  u.query.map fun query =>
    if u.occur = some .mustNot ∧ disjunctive then ⟨default, negation query u.boosts⟩
    else ⟨u.occur.getD default, query.scale u.bindingBoost⟩

/-- Whether the operand is a leaf. -/
def isLeaf (u : Operand) : Bool := u.query.any (!·.isBoolean)

/-- Whether every clause of the operand is optional. -/
def isOptional (u : Operand) : Bool :=
  match u.query with
  | some (.boolean clauses _) => isDisjunction clauses
  | _ => false

/-- Whether the clauses of the operand may stand in the group around it, which is joined by
`junction`. This needs a group written side by side. A required clause keeps its own group. -/
def canSplice (junction : Junction) (u : Operand) : Bool :=
  u.query.isNone ||
    match junction with
    | .implicit .and =>
      u.occur != some .mustNot &&
        (u.isLeaf || (u.boosts.isEmpty && u.junction == some .and))
    | .implicit .or =>
      u.occur.isNone &&
        (u.isLeaf || (u.boosts.isEmpty && u.junction == some .or && u.isOptional))
    | _ => false

/-- The operands with those that the junction excludes. -/
def excluding (junction : Junction) (operands : List Operand) : List Operand :=
  match junction, operands with
  | .not, first :: rest => first :: rest.map fun u => { u with occur := some .mustNot }
  | _, _ => operands

/-- The clauses of one operand. -/
def clauses (junction : Junction) (splice : Bool) (u : Operand) : List (Clause Query) :=
  match u.query, splice && u.junction.isSome with
  | some (.boolean clauses _), true => clauses
  | _, _ => (u.place junction.occur (junction == .or)).toList

/-- The operand that a list of clauses makes. A single clause that is not prohibited stands for
itself. -/
def ofClauses (junction : Junction) : List (Clause Query) → Operand
  | [] => empty
  | [⟨occur, query⟩] =>
    if occur = .mustNot then { query := some (.ofClauses [⟨occur, query⟩]), junction := junction }
    else ofQuery query
  | clauses => { query := some (.ofClauses clauses), junction := junction }

/-- The operand that a group of operands makes. -/
def group (junction : Junction) (operands : List Operand) : Operand :=
  ofClauses junction <|
    (excluding junction operands).flatMap (clauses junction (operands.all (canSplice junction)))

/-- The query of an operand that stands alone. -/
def toQuery (u : Operand) : Query :=
  match u.place .must false with
  | none => .empty
  | some clause => if clause.occur = .mustNot then .ofClauses [clause] else clause.query

end Operand

end SearchQuery
