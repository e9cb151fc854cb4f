import SearchQuery.Error
import SearchQuery.Query.Render

/-!
Queries that can be rendered faithfully: boosts are finite and not negative, fields are not empty,
phrases have terms, similarities are at least zero and below one, and patterns are not empty.
-/

namespace SearchQuery

open Number (Single)

/-- A boost must be finite and not negative. -/
def checkBoost (boost : Single) : Except Malformed Unit :=
  if !boost.isFinite || boost.belowZero then .error (.boost boost) else .ok ()

namespace Leaf

/-- What each kind of leaf asks of its parts. -/
def checkParts : Leaf → Except Malformed Unit
  | phrase _ terms _ => if terms.isEmpty then .error .emptyPhrase else .ok ()
  | fuzzy _ _ similarity _ =>
    if similarity.inUnitInterval then .ok () else .error (.similarity similarity)
  | wildcard _ pattern => if pattern.isEmpty then .error .emptyPattern else .ok ()
  | _ => .ok ()

/-- The first fault of a leaf. -/
def validate (l : Leaf) : Except Malformed Unit :=
  if l.field? = some "" then .error .emptyField else l.checkParts

end Leaf

namespace Query

mutual

/-- The first fault of a query, from the root down and from left to right. -/
def validate : Query → Except Malformed Unit
  | leaf l boost =>
    match checkBoost boost with
    | .error e => .error e
    | .ok () => l.validate
  | boolean clauses boost =>
    match checkBoost boost with
    | .error e => .error e
    | .ok () => validateClauses clauses

/-- The first fault of a list of clauses. -/
def validateClauses : List (Clause Query) → Except Malformed Unit
  | [] => .ok ()
  | ⟨_, query⟩ :: rest =>
    match validate query with
    | .error e => .error e
    | .ok () => validateClauses rest

end

/-- The canonical text of a query without fault. -/
def tryRender (query : Query) : Except Error String :=
  match query.validate with
  | .error fault => .error (.grammatical (.malformed fault))
  | .ok () => .ok query.render

end Query

end SearchQuery
