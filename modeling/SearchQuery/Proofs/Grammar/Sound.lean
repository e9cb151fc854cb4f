import SearchQuery.Proofs.Grammar.Induction
import SearchQuery.Proofs.Lexer.Kinds

/-!
What holds of every tree that sound tokens spell: field names and patterns are not empty, boosts are
finite and have no sign, similarities are at least zero and below one, and groups have several
operands. Each production of the grammar hands this on from its parts.
-/

namespace SearchQuery

open Number (Single)

/-- What an atom of a text satisfies. -/
def Atom.Sound : Atom → Prop
  | .wildcard pattern => pattern ≠ ""
  | .fuzzy _ (some similarity) => similarity.inUnitInterval = true
  | _ => True

/-- What a tree of a text satisfies. -/
inductive Tree.Sound : Tree → Prop
  | atom {own : Option String} {a : Atom} (named : own ≠ some "") (sound : a.Sound) :
      Sound (.atom own a)
  | scope {field : String} {t : Tree} (named : field ≠ "") (child : Sound t) :
      Sound (.scope field t)
  | group {junction : Junction} {ts : List Tree} (several : 2 ≤ ts.length)
      (all : ∀ t ∈ ts, Sound t) : Sound (.group junction ts)
  | boost {value : Single} {t : Tree} (unsigned : value.isUnsigned = true) (child : Sound t) :
      Sound (.boost value t)
  | prohibited {t : Tree} (child : Sound t) : Sound (.prohibited t)
  | required {t : Tree} (child : Sound t) : Sound (.required t)

theorem Tree.Sound.under {t : Tree} (h : t.Sound) {name : String} (named : name ≠ "") :
    (t.under name).Sound := by
  cases h with
  | atom _ sound => exact .atom (by simpa using named) sound
  | scope field child => exact .scope named (.scope field child)
  | group several all => exact .scope named (.group several all)
  | boost unsigned child => exact .scope named (.boost unsigned child)
  | prohibited child => exact .scope named (.prohibited child)
  | required child => exact .scope named (.required child)

namespace Grammar

theorem Tilded.sound {t result : Tree} {value : Option Single} (h : Tilded t value result)
    (ht : t.Sound) : result.Sound := by
  cases h with
  | @fuzzy own text value inRange =>
    cases ht with
    | atom named _ =>
      refine .atom named ?_
      cases value with
      | none => trivial
      | some s => exact inRange s rfl
  | slop =>
    cases ht with
    | atom named _ => exact .atom named trivial

/-- Sound tokens spell sound trees only: the product of the boosts after an operand has no sign, as
none of them has. -/
theorem inherited_sound :
    Inherited Token.Kind.Sound (fun b => b.isUnsigned = true) Tree.Sound where
  group several all := .group several all
  all _ := .atom (by simp) (by simp [Atom.Sound])
  term _ := .atom (by simp) trivial
  wildcard sound := .atom (by simp) sound
  phrase _ := .atom (by simp) trivial
  range _ := .atom (by simp) trivial
  under named ht := ht.under named
  tilde _ applied ht := applied.sound ht
  caret {boost value} hboost sound finite := by
    refine Single.isUnsigned_mul ?_ sound finite
    cases boost with
    | none => rfl
    | some b => exact hboost b rfl
  boost unsigned ht := .boost unsigned ht
  required ht := .required ht
  prohibited ht := .prohibited ht

end Grammar

end SearchQuery
