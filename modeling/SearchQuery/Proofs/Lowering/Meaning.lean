import SearchQuery.Proofs.Lowering.Operands

/-!
What queries and trees mean, given which leaves hold, and that a tree and its query mean the same.
The meaning of a tree looks at the cores of the operands of each group, the signs around each core,
and whether analysis left anything of it. Main statement: a query holds exactly if its tree does.
-/

namespace SearchQuery

open Number (Single)

/-! ## Queries -/

/-- Whether clauses hold together: all that must hold do, none that must not, and, unless some must
hold, one of the optional ones if there are any. -/
def satisfied (clauses : List (Clause Bool)) : Bool :=
  clauses.all (fun c => c.occur != .must || c.query) &&
    clauses.all (fun c => c.occur != .mustNot || !c.query) &&
    (clauses.any (·.occur == .must) || !clauses.any (·.occur == .should) ||
      clauses.any fun c => c.occur == .should && c.query)

namespace Query

mutual

/-- Whether a query holds, given which leaves do. -/
def holds (v : Leaf → Bool) : Query → Bool
  | leaf l _ => v l
  | boolean clauses _ => satisfied (clauseValues v clauses)

/-- The clauses with whether their queries hold. -/
def clauseValues (v : Leaf → Bool) : List (Clause Query) → List (Clause Bool)
  | [] => []
  | ⟨occur, query⟩ :: rest => ⟨occur, holds v query⟩ :: clauseValues v rest

end

end Query

/-! ## Trees -/

namespace Tree

/-- The sign that the signs around the core of an operand add up to. -/
def mark : Tree → Option Occur
  | atom .. | group .. => none
  | scope _ child | boost _ child => mark child
  | required child => if mark child = some .mustNot then some .mustNot else some .must
  | prohibited _ => some .mustNot

end Tree

/-- Whether the core of an operand holds, or does not if the operand is prohibited. -/
def agrees (mark : Option Occur) (value : Bool) : Bool :=
  if mark = some .mustNot then !value else value

namespace Junction

/-- The operands of a group with those that the junction excludes, each with its sign. -/
def exclude {α : Type} (junction : Junction) (parts : List (Option Occur × α)) :
    List (Option Occur × α) :=
  match junction, parts with
  | .not, first :: rest => first :: rest.map fun part => (some .mustNot, part.2)
  | _, _ => parts

/-- Whether a group holds, given the sign of each operand and whether its core holds. -/
def holds (junction : Junction) (parts : List (Option Occur × Bool)) : Bool :=
  match junction with
  | .and | .not | .implicit .and => parts.all fun part => agrees part.1 part.2
  | .or =>
    if parts.any (·.1 == some .must) then parts.all fun part => part.1 != some .must || part.2
    else parts.any fun part => agrees part.1 part.2
  | .implicit .or =>
    parts.all (fun part => part.1 != some .must || part.2) &&
      parts.all (fun part => part.1 != some .mustNot || !part.2) &&
      (parts.any (·.1 == some .must) || !parts.any (·.1 == none) ||
        parts.any fun part => part.1 == none && part.2)

/-- Whether a group holds, where operands without a value are ignored. There is no answer if all
of them are. -/
def meaning (junction : Junction) (parts : List (Option Occur × Option Bool)) : Option Bool :=
  let present := (junction.exclude parts).filterMap fun part => part.2.map (part.1, ·)
  if present.isEmpty then none else some (junction.holds present)

end Junction

namespace Tree

variable (analyzer : Analyzer) (config : Config)

mutual

/-- The leaves that analysis leaves of a tree, in order. -/
def leaves (field : String) : Tree → List Leaf
  | atom own a => (a.leaf? analyzer config (own.getD field)).toList
  | scope inner child => leaves inner child
  | group _ children => leavesOf field children
  | boost _ child | required child | prohibited child => leaves field child

def leavesOf (field : String) : List Tree → List Leaf
  | [] => []
  | tree :: rest => leaves field tree ++ leavesOf field rest

end

mutual

/-- Whether the core of a tree holds, if analysis leaves any leaf of it. -/
def core (v : Leaf → Bool) (field : String) : Tree → Option Bool
  | atom own a => (a.leaf? analyzer config (own.getD field)).map v
  | scope inner child => core v inner child
  | group junction children => junction.meaning (parts v field children)
  | boost _ child | required child | prohibited child => core v field child

/-- The sign and the core of each operand of a group. -/
def parts (v : Leaf → Bool) (field : String) : List Tree → List (Option Occur × Option Bool)
  | [] => []
  | tree :: rest => (tree.mark, core v field tree) :: parts v field rest

end

/-- Whether a tree holds, if analysis leaves any leaf of it. -/
def holds (v : Leaf → Bool) (field : String) (tree : Tree) : Option Bool :=
  (tree.core analyzer config v field).map (agrees tree.mark)

end Tree

/-! ## Clauses -/

/-- Whether what a clause demands is so. An optional clause demands nothing. -/
def Clause.obeyed (c : Clause Bool) : Bool :=
  match c.occur with
  | .must => c.query
  | .should => true
  | .mustNot => !c.query

theorem satisfied_eq (cs : List (Clause Bool)) :
    satisfied cs = (cs.all Clause.obeyed && (cs.any (·.occur == .must) ||
      !cs.any (·.occur == .should) || cs.any fun c => c.occur == .should && c.query)) := by
  have hall : (cs.all (fun c => c.occur != .must || c.query) &&
      cs.all fun c => c.occur != .mustNot || !c.query) = cs.all Clause.obeyed := by
    induction cs with
    | nil => rfl
    | cons c cs ih =>
      obtain ⟨occur, value⟩ := c
      rw [List.all_cons, List.all_cons, List.all_cons, ← ih]
      generalize (cs.all fun c => c.occur != .must || c.query) = required
      generalize (cs.all fun c => c.occur != .mustNot || !c.query) = excluded
      cases occur <;> cases value <;> cases required <;> cases excluded <;> rfl
  rw [satisfied, hall]

/-- A clause alone holds if its query does, or does not if it is prohibited. -/
theorem satisfied_singleton (occur : Occur) (value : Bool) :
    satisfied [⟨occur, value⟩] = agrees (some occur) value := by
  cases occur <;> cases value <;> rfl

theorem satisfied_of_no_should {cs : List (Clause Bool)} (h : cs.any (·.occur == .should) = false) :
    satisfied cs = cs.all Clause.obeyed := by
  rw [satisfied_eq, h, Bool.not_false, Bool.or_true, Bool.true_or, Bool.and_true]

namespace Query

theorem clauseValues_eq (v : Leaf → Bool) (cs : List (Clause Query)) :
    clauseValues v cs = cs.map fun c => ⟨c.occur, c.query.holds v⟩ := by
  induction cs with
  | nil => rfl
  | cons c cs ih => rw [clauseValues, ih, List.map_cons]

theorem holds_ofClauses (v : Leaf → Bool) (cs : List (Clause Query)) :
    (ofClauses cs).holds v = satisfied (clauseValues v cs) := by
  rw [ofClauses, holds]

@[simp] theorem holds_withBoost (v : Leaf → Bool) (b : Single) (q : Query) :
    (q.withBoost b).holds v = q.holds v := by
  cases q with
  | leaf => rw [withBoost, holds, holds]
  | boolean => rw [withBoost, holds, holds]

@[simp] theorem holds_scale (v : Leaf → Bool) (q : Query) (b : Option Single) :
    (q.scale b).holds v = q.holds v := by
  cases b with
  | none => rfl
  | some b => exact holds_withBoost v _ q

end Query

namespace Operand

theorem holds_negation (v : Leaf → Bool) (q : Query) (boosts : List Single) :
    (negation q boosts).holds v = !q.holds v := by
  have hsingle := satisfied_singleton .mustNot (q.holds v)
  match boosts with
  | [] => exact hsingle
  | [_] => exact hsingle
  | inner :: _ :: _ =>
    simp only [negation, Query.holds, Query.clauseValues, Query.holds_scale]
    exact hsingle

/-- The sign of an operand and whether its query holds, if it has one. -/
def present? (v : Leaf → Bool) (u : Operand) : Option (Option Occur × Bool) :=
  u.query.map fun q => (u.occur, q.holds v)

/-- The clause of an operand that is not spliced, from its sign and whether its query holds. -/
def clauseOf (junction : Junction) (part : Option Occur × Bool) : Clause Bool :=
  if part.1 = some .mustNot ∧ junction = .or then ⟨junction.occur, !part.2⟩
  else ⟨part.1.getD junction.occur, part.2⟩

/-- The clauses of an operand with whether their queries hold. -/
def values (v : Leaf → Bool) (junction : Junction) (splice : Bool) (u : Operand) :
    List (Clause Bool) :=
  Query.clauseValues v (u.clauses junction splice)

theorem clauseValues_place (v : Leaf → Bool) (junction : Junction) (u : Operand) :
    Query.clauseValues v (u.place junction.occur (junction == .or)).toList =
      ((u.present? v).map (clauseOf junction)).toList := by
  rw [Query.clauseValues_eq, place, present?]
  cases u.query with
  | none => rfl
  | some q =>
    by_cases h : u.occur = some .mustNot ∧ junction = .or
    · simp [clauseOf, h, holds_negation]
    · simp [clauseOf, h]

/-! ## Groups -/

/-- Two lists of clauses that agree in all that decides whether clauses hold together. -/
structure SameTally (cs ds : List (Clause Bool)) : Prop where
  obeyed : cs.all Clause.obeyed = ds.all Clause.obeyed
  required : cs.any (·.occur == .must) = ds.any (·.occur == .must)
  optional : cs.any (·.occur == .should) = ds.any (·.occur == .should)
  chosen : (cs.any fun c => c.occur == .should && c.query) =
    ds.any fun c => c.occur == .should && c.query

theorem SameTally.refl (cs : List (Clause Bool)) : SameTally cs cs := ⟨rfl, rfl, rfl, rfl⟩

theorem SameTally.satisfied_eq {cs ds : List (Clause Bool)} (h : SameTally cs ds) :
    satisfied cs = satisfied ds := by
  rw [SearchQuery.satisfied_eq, SearchQuery.satisfied_eq, h.obeyed, h.required, h.optional, h.chosen]

theorem SameTally.flatMap {α : Type} {l : List α} {f g : α → List (Clause Bool)}
    (h : ∀ a ∈ l, SameTally (f a) (g a)) : SameTally (l.flatMap f) (l.flatMap g) := by
  constructor
  · rw [List.all_flatMap, List.all_flatMap]
    exact List.all_congr_mem fun a ha => (h a ha).obeyed
  · rw [List.any_flatMap, List.any_flatMap]
    exact List.any_congr_mem fun a ha => (h a ha).required
  · rw [List.any_flatMap, List.any_flatMap]
    exact List.any_congr_mem fun a ha => (h a ha).optional
  · rw [List.any_flatMap, List.any_flatMap]
    exact List.any_congr_mem fun a ha => (h a ha).chosen

/-- Clauses that are all optional, and not none at all, count as one optional clause. -/
theorem SameTally.of_optional {cs : List (Clause Bool)} (nonempty : cs ≠ [])
    (h : ∀ c ∈ cs, c.occur = .should) : SameTally cs [⟨.should, satisfied cs⟩] := by
  have hobeyed : cs.all Clause.obeyed = true := by
    rw [List.all_eq_true]
    intro c hc
    rw [Clause.obeyed, h c hc]
  have hrequired : cs.any (·.occur == .must) = false := by
    rw [List.any_eq_false]
    intro c hc
    rw [h c hc]
    decide
  have hoptional : cs.any (·.occur == .should) = true := by
    obtain ⟨c, rest, rfl⟩ := List.exists_cons_of_ne_nil nonempty
    exact List.any_eq_true.mpr ⟨c, by simp, by rw [h c (by simp)]; rfl⟩
  refine ⟨hobeyed, hrequired, hoptional, ?_⟩
  rw [SearchQuery.satisfied_eq, hobeyed, hrequired, hoptional]
  simp

section Group

variable {v : Leaf → Bool} {junction : Junction} {splice : Bool} {u : Operand}

theorem values_cases (h : splice = true → u.canSplice junction = true) :
    u.values v junction splice = ((u.present? v).map (clauseOf junction)).toList ∨
      Spliced junction u (u.clauses junction splice) := by
  rcases clauses_cases h with hplace | hspliced
  · left
    rw [values, hplace, clauseValues_place]
  · exact .inr hspliced

/-- Operands are required, prohibited or unmarked. -/
theorem mark_of_present? (shaped : u.Shaped) {part : Option Occur × Bool}
    (h : u.present? v = some part) :
    part.1 = none ∨ part.1 = some .must ∨ part.1 = some .mustNot := by
  obtain ⟨q, -, rfl⟩ := Option.map_eq_some_iff.mp h
  have hmarked := shaped.marked
  match hoccur : u.occur with
  | none => exact .inl rfl
  | some .must => exact .inr (.inl rfl)
  | some .mustNot => exact .inr (.inr rfl)
  | some .should => exact absurd hoccur hmarked

/-- In a conjunction no clause is optional, and the clauses of an operand demand what it means. -/
theorem values_conjunctive (hj : junction = .and ∨ junction = .not ∨ junction = .implicit .and)
    (shaped : u.Shaped) (h : splice = true → u.canSplice junction = true) :
    (u.values v junction splice).any (·.occur == .should) = false ∧
      (u.values v junction splice).all Clause.obeyed =
        (u.present? v).all fun part => agrees part.1 part.2 := by
  rcases values_cases (v := v) h with hplace | hspliced
  · rw [hplace]
    cases hp : u.present? v with
    | none => exact ⟨rfl, rfl⟩
    | some part =>
      obtain ⟨mark, value⟩ := part
      have hmark : mark = none ∨ mark = some .must ∨ mark = some .mustNot :=
        mark_of_present? shaped hp
      rcases hj with rfl | rfl | rfl <;> rcases hmark with rfl | rfl | rfl <;> cases value <;>
        exact ⟨rfl, rfl⟩
  · generalize hcs : u.clauses junction splice = cs at hspliced
    cases hspliced with
    | @conjunction _ cs boost query unboosted joined kept =>
      obtain ⟨cs', hquery, -, hshould⟩ := shaped.grouped .and joined
      rw [query] at hquery
      cases hquery
      have hvalues : u.values v (.implicit .and) splice = Query.clauseValues v cs := by
        rw [values, hcs]
      have hnone : (u.values v (.implicit .and) splice).any (·.occur == .should) = false := by
        rw [hvalues, Query.clauseValues_eq, List.any_map, List.any_eq_false]
        intro c hc
        simpa using hshould rfl c hc
      refine ⟨hnone, ?_⟩
      rw [← satisfied_of_no_should hnone, hvalues, present?, query, Option.map_some, Option.all_some,
        agrees, if_neg kept, Query.holds]
    | disjunction => simp at hj

/-- In a disjunction the clauses of an operand count as much as one clause for it. -/
theorem values_disjunctive (hj : junction = .or ∨ junction = .implicit .or)
    (shaped : u.Shaped) (h : splice = true → u.canSplice junction = true) :
    SameTally (u.values v junction splice) ((u.present? v).map (clauseOf junction)).toList := by
  rcases values_cases (v := v) h with hplace | hspliced
  · rw [hplace]
    exact .refl _
  · generalize hcs : u.clauses junction splice = cs at hspliced
    cases hspliced with
    | conjunction => simp at hj
    | @disjunction _ cs boost query unboosted joined unsigned optional =>
      obtain ⟨cs', hquery, nonempty, -⟩ := shaped.grouped .or joined
      rw [query] at hquery
      cases hquery
      have hpresent : u.present? v = some (none, satisfied (Query.clauseValues v cs)) := by
        rw [present?, query, unsigned, Option.map_some, Query.holds]
      have hshould : ∀ c ∈ Query.clauseValues v cs, c.occur = .should := by
        rw [isDisjunction, List.all_eq_true] at optional
        intro c hc
        rw [Query.clauseValues_eq] at hc
        obtain ⟨d, hd, rfl⟩ := List.mem_map.mp hc
        simpa using optional d hd
      have hne : Query.clauseValues v cs ≠ [] := by
        rw [Query.clauseValues_eq]
        simpa using nonempty
      rw [values, hcs, hpresent]
      exact .of_optional hne hshould

end Group

/-- Side by side and optional unless marked, operands mean what their clauses do. -/
theorem satisfied_implicit_or {parts : List (Option Occur × Bool)}
    (h : ∀ part ∈ parts, part.1 = none ∨ part.1 = some .must ∨ part.1 = some .mustNot) :
    satisfied (parts.map (clauseOf (.implicit .or))) = Junction.holds (.implicit .or) parts := by
  have hrequired : ∀ part ∈ parts,
      ((clauseOf (.implicit .or) part).occur != .must || (clauseOf (.implicit .or) part).query) =
        (part.1 != some .must || part.2) := by
    rintro ⟨mark, value⟩ hpart
    rcases h _ hpart with rfl | rfl | rfl <;> rfl
  have hexcluded : ∀ part ∈ parts,
      ((clauseOf (.implicit .or) part).occur != .mustNot || !(clauseOf (.implicit .or) part).query) =
        (part.1 != some .mustNot || !part.2) := by
    rintro ⟨mark, value⟩ hpart
    rcases h _ hpart with rfl | rfl | rfl <;> rfl
  have hmust : ∀ part ∈ parts,
      ((clauseOf (.implicit .or) part).occur == .must) = (part.1 == some .must) := by
    rintro ⟨mark, value⟩ hpart
    rcases h _ hpart with rfl | rfl | rfl <;> rfl
  have hshould : ∀ part ∈ parts,
      ((clauseOf (.implicit .or) part).occur == .should) = (part.1 == none) := by
    rintro ⟨mark, value⟩ hpart
    rcases h _ hpart with rfl | rfl | rfl <;> rfl
  have hchosen : ∀ part ∈ parts, ((clauseOf (.implicit .or) part).occur == .should &&
      (clauseOf (.implicit .or) part).query) = (part.1 == none && part.2) := by
    rintro ⟨mark, value⟩ hpart
    rcases h _ hpart with rfl | rfl | rfl <;> rfl
  simp only [satisfied, List.all_map, List.any_map, Junction.holds, Function.comp_def]
  rw [List.all_congr_mem hrequired, List.all_congr_mem hexcluded, List.any_congr_mem hmust,
    List.any_congr_mem hshould, List.any_congr_mem hchosen]

/-- In a disjunction required operands decide alone, and otherwise any operand will do. -/
theorem satisfied_or {parts : List (Option Occur × Bool)} (nonempty : parts ≠ [])
    (h : ∀ part ∈ parts, part.1 = none ∨ part.1 = some .must ∨ part.1 = some .mustNot) :
    satisfied (parts.map (clauseOf .or)) = Junction.holds .or parts := by
  have hobeyed : ∀ part ∈ parts,
      Clause.obeyed (clauseOf .or part) = (part.1 != some .must || part.2) := by
    rintro ⟨mark, value⟩ hpart
    rcases h _ hpart with rfl | rfl | rfl <;> rfl
  have hmust : ∀ part ∈ parts, ((clauseOf .or part).occur == .must) = (part.1 == some .must) := by
    rintro ⟨mark, value⟩ hpart
    rcases h _ hpart with rfl | rfl | rfl <;> rfl
  simp only [satisfied_eq, List.all_map, List.any_map, Junction.holds, Function.comp_def]
  rw [List.all_congr_mem hobeyed, List.any_congr_mem hmust]
  by_cases hany : parts.any (·.1 == some .must) = true
  · rw [if_pos hany, hany, Bool.true_or, Bool.true_or, Bool.and_true]
  · rw [if_neg hany]
    rw [Bool.not_eq_true] at hany
    have hfree : ∀ part ∈ parts, (part.1 == some .must) = false := by
      simpa [List.any_eq_false] using hany
    have hall : (parts.all fun part => part.1 != some .must || part.2) = true := by
      rw [List.all_eq_true]
      intro part hpart
      rw [bne, hfree part hpart]
      rfl
    have hshould : (parts.any fun part => (clauseOf .or part).occur == .should) = true := by
      obtain ⟨part, rest, rfl⟩ := List.exists_cons_of_ne_nil nonempty
      refine List.any_eq_true.mpr ⟨part, by simp, ?_⟩
      have hnone := hfree part (by simp)
      obtain ⟨mark, value⟩ := part
      rcases h _ List.mem_cons_self with rfl | rfl | rfl
      · rfl
      · cases hnone
      · rfl
    have hchosen : ∀ part ∈ parts, ((clauseOf .or part).occur == .should &&
        (clauseOf .or part).query) = agrees part.1 part.2 := by
      rintro ⟨mark, value⟩ hpart
      have hnone := hfree _ hpart
      rcases h _ hpart with rfl | rfl | rfl
      · rfl
      · cases hnone
      · rfl
    rw [hall, hany, hshould, List.any_congr_mem hchosen]
    rfl

/-- The operands that a junction excludes are excluded before any are ignored. -/
theorem exclude_map (v : Leaf → Bool) (junction : Junction) (us : List Operand) :
    (junction.exclude (us.map fun u => (u.occur, u.query.map (Query.holds v)))).filterMap
        (fun part => part.2.map (part.1, ·)) =
      (excluding junction us).filterMap (present? v) := by
  have hpresent : ∀ us : List Operand,
      (us.map fun u => (u.occur, u.query.map (Query.holds v))).filterMap
        (fun part => part.2.map (part.1, ·)) = us.filterMap (present? v) := by
    intro us
    rw [List.filterMap_map]
    congr 1
    funext u
    cases hq : u.query <;> simp [present?, hq]
  by_cases hnot : junction = .not
  · subst hnot
    cases us with
    | nil => rfl
    | cons first rest =>
      have := hpresent (excluding .not (first :: rest))
      simpa [excluding, Junction.exclude, Function.comp_def] using this
  · have hexclude : ∀ parts : List (Option Occur × Option Bool),
        junction.exclude parts = parts := by
      intro parts
      unfold Junction.exclude
      split
      · exact absurd rfl hnot
      · rfl
    rw [hexclude, excluding_of_ne_not hnot, hpresent]

/-- The clauses of operands hold together exactly if the group of the operands does. -/
theorem satisfied_flatMap_values {v : Leaf → Bool} {junction : Junction} {splice : Bool}
    {us : List Operand} (shaped : ∀ u ∈ us, u.Shaped)
    (h : ∀ u ∈ us, splice = true → u.canSplice junction = true)
    (nonempty : us.filterMap (present? v) ≠ []) :
    satisfied (us.flatMap (values v junction splice)) =
      junction.holds (us.filterMap (present? v)) := by
  have hmarks : ∀ part ∈ us.filterMap (present? v),
      part.1 = none ∨ part.1 = some .must ∨ part.1 = some .mustNot := by
    intro part hpart
    obtain ⟨u, hu, hpresent⟩ := List.mem_filterMap.mp hpart
    exact mark_of_present? (shaped u hu) hpresent
  have hconjunctive : junction = .and ∨ junction = .not ∨ junction = .implicit .and →
      satisfied (us.flatMap (values v junction splice)) =
        (us.filterMap (present? v)).all fun part => agrees part.1 part.2 := by
    intro hj
    have hnone : (us.flatMap (values v junction splice)).any (·.occur == .should) = false := by
      rw [List.any_flatMap, List.any_eq_false]
      intro u hu
      simp [(values_conjunctive hj (shaped u hu) (h u hu)).1]
    rw [satisfied_of_no_should hnone, List.all_flatMap, List.all_filterMap]
    refine List.all_congr_mem fun u hu => ?_
    rw [(values_conjunctive hj (shaped u hu) (h u hu)).2]
    cases u.present? v <;> rfl
  have hdisjunctive : junction = .or ∨ junction = .implicit .or →
      satisfied (us.flatMap (values v junction splice)) =
        satisfied ((us.filterMap (present? v)).map (clauseOf junction)) := by
    intro hj
    have htally := SameTally.flatMap fun u hu =>
      values_disjunctive (v := v) hj (shaped u hu) (h u hu)
    rw [htally.satisfied_eq, List.map_filterMap, List.filterMap_eq_flatMap_toList]
  match junction with
  | .and => exact hconjunctive (.inl rfl)
  | .not => exact hconjunctive (.inr (.inl rfl))
  | .implicit .and => exact hconjunctive (.inr (.inr rfl))
  | .or => rw [hdisjunctive (.inl rfl), satisfied_or nonempty hmarks]
  | .implicit .or => rw [hdisjunctive (.inr rfl), satisfied_implicit_or hmarks]

theorem holds_query_ofClauses (v : Leaf → Bool) (junction : Junction) (cs : List (Clause Query)) :
    (ofClauses junction cs).query.map (Query.holds v) =
      if cs.isEmpty then none else some (satisfied (Query.clauseValues v cs)) := by
  match cs with
  | [] => rfl
  | [⟨occur, query⟩] =>
    have hsingle := satisfied_singleton occur (query.holds v)
    rw [ofClauses]
    split
    · exact congrArg some (Query.holds_ofClauses v _)
    · rename_i hoccur
      rw [agrees, if_neg (by simpa using hoccur)] at hsingle
      exact congrArg some hsingle.symm
  | c :: c' :: rest => exact congrArg some (Query.holds_ofClauses v _)

/-- A group of operands means what its junction says. -/
theorem holds_group {us : List Operand} (v : Leaf → Bool) (junction : Junction)
    (shaped : ∀ u ∈ us, u.Shaped) :
    (group junction us).query.map (Query.holds v) =
      junction.meaning (us.map fun u => (u.occur, u.query.map (Query.holds v))) := by
  obtain ⟨splice, heq, hsplice⟩ := exists_group_eq junction us
  have hshaped := shaped_excluding junction shaped
  rw [heq, holds_query_ofClauses, Junction.meaning, exclude_map]
  generalize excluding junction us = ws at hsplice hshaped
  have hvalues : Query.clauseValues v (ws.flatMap (clauses junction splice)) =
      ws.flatMap (values v junction splice) := by
    rw [Query.clauseValues_eq, List.map_flatMap]
    exact List.flatMap_congr fun u _ => (Query.clauseValues_eq v _).symm
  have hempty : (ws.flatMap (clauses junction splice)).isEmpty =
      (ws.filterMap (present? v)).isEmpty := by
    rw [Bool.eq_iff_iff, List.isEmpty_iff, List.isEmpty_iff, List.flatMap_eq_nil_iff,
      List.filterMap_eq_nil_iff]
    refine forall₂_congr fun u hu => ?_
    rw [clauses_eq_nil_iff (hshaped u hu) (hsplice u hu), present?, Option.map_eq_none_iff]
  rw [hempty, hvalues]
  by_cases hnil : (ws.filterMap (present? v)).isEmpty = true
  · rw [if_pos hnil, if_pos hnil]
  · rw [if_neg hnil, if_neg hnil]
    rw [List.isEmpty_iff] at hnil
    rw [satisfied_flatMap_values hshaped hsplice hnil]

/-! ## Trees and queries -/

/-- An operand has the sign of its tree, and its query means what the core of the tree does. -/
structure Means (analyzer : Analyzer) (config : Config) (v : Leaf → Bool) (field : String) (t : Tree)
    (u : Operand) : Prop where
  shaped : u.Shaped
  mark : u.occur = t.mark
  core : u.query.map (Query.holds v) = t.core analyzer config v field

theorem parts_eq {analyzer : Analyzer} {config : Config} {v : Leaf → Bool} {field : String}
    {ts : List Tree} {us : List Operand}
    (h : List.Forall₂ (Means analyzer config v field) ts us) :
    Tree.parts analyzer config v field ts =
      us.map fun u => (u.occur, u.query.map (Query.holds v)) := by
  induction h with
  | nil => rfl
  | cons hmeans _ ih => rw [Tree.parts, ih, List.map_cons, hmeans.mark, hmeans.core]

theorem hereditary_means (analyzer : Analyzer) (config : Config) (v : Leaf → Bool) :
    Hereditary analyzer config (Means analyzer config v) where
  atom field own a leaf h := by
    refine ⟨(hereditary_shaped analyzer config).atom field own a leaf h, rfl, ?_⟩
    rw [Tree.core, Atom.leaf?_of_ofAtom? h, Option.map_map]
    rfl
  scope field inner t u h := ⟨h.shaped, h.mark, h.core⟩
  boost field value t u u' h hu := by
    have hshaped := (hereditary_shaped analyzer config).boost field value t u u' h.shaped hu
    rw [boost] at hu
    split at hu
    · cases hu
      exact ⟨hshaped, h.mark, h.core⟩
    · cases hu
  required field t u h := by
    have hshaped := (hereditary_shaped analyzer config).required field t u h.shaped
    refine ⟨hshaped, ?_, ?_⟩
    · rw [require, Tree.mark, ← h.mark]
      split
      · assumption
      · rfl
    · rw [Tree.core, ← h.core, require]
      split <;> rfl
  prohibited field t u h :=
    ⟨(hereditary_shaped analyzer config).prohibited field t u h.shaped, rfl, h.core⟩
  group field junction ts us h := by
    have hshaped : ∀ u ∈ us, u.Shaped := by
      intro u hu
      obtain ⟨t, -, -, hmeans⟩ := h.exists_of_mem_right hu
      exact hmeans.shaped
    refine ⟨shaped_group hshaped, ?_, ?_⟩
    · rw [Tree.mark]
      unfold group ofClauses
      split
      · rfl
      · split <;> rfl
      · rfl
    · rw [Tree.core, parts_eq (h.imp fun _ _ => And.right), holds_group v junction hshaped]

/-- An operand that stands alone means what its query does, or the contrary if it is prohibited. -/
theorem holds_toQuery {v : Leaf → Bool} {u : Operand} {q : Query} (h : u.query = some q) :
    u.toQuery.holds v = agrees u.occur (q.holds v) := by
  rw [toQuery_eq h]
  by_cases hnot : u.occur = some .mustNot
  · have hsingle := satisfied_singleton .mustNot (q.holds v)
    simp only [hnot, ↓reduceIte, Query.holds_ofClauses, Query.clauseValues, Query.holds_scale,
      hsingle]
  · rw [if_neg hnot, Query.holds_scale, agrees, if_neg hnot]

end Operand

namespace Junction

theorem exclude_eq_none_iff (junction : Junction) (parts : List (Option Occur × Option Bool)) :
    (∀ part ∈ junction.exclude parts, part.2 = none) ↔ ∀ part ∈ parts, part.2 = none := by
  unfold exclude
  split
  · rw [List.forall_mem_cons, List.forall_mem_cons, List.forall_mem_map]
  · rfl

/-- A group has a meaning unless none of its operands has. -/
theorem meaning_eq_none_iff {junction : Junction} {parts : List (Option Occur × Option Bool)} :
    junction.meaning parts = none ↔ ∀ part ∈ parts, part.2 = none := by
  rw [← exclude_eq_none_iff junction, meaning, ite_eq_left_iff]
  simp only [reduceCtorEq, imp_false, not_not, List.isEmpty_iff, List.filterMap_eq_nil_iff,
    Option.map_eq_none_iff]

end Junction

namespace Tree

variable {analyzer : Analyzer} {config : Config} {v : Leaf → Bool} {field : String}

mutual

/-- A tree has a meaning exactly if analysis leaves any leaf of it. -/
theorem core_eq_none_iff {field : String} :
    (t : Tree) → (t.core analyzer config v field = none ↔ t.leaves analyzer config field = [])
  | .atom own a => by
    rw [core, leaves]
    cases a.leaf? analyzer config (own.getD field) <;> simp
  | .scope inner t => by
    rw [core, leaves]
    exact core_eq_none_iff t
  | .boost _ t => by
    rw [core, leaves]
    exact core_eq_none_iff t
  | .required t => by
    rw [core, leaves]
    exact core_eq_none_iff t
  | .prohibited t => by
    rw [core, leaves]
    exact core_eq_none_iff t
  | .group junction ts => by
    rw [core, leaves, Junction.meaning_eq_none_iff]
    exact parts_eq_none_iff ts

theorem parts_eq_none_iff {field : String} :
    (ts : List Tree) → ((∀ part ∈ parts analyzer config v field ts, part.2 = none) ↔
      leavesOf analyzer config field ts = [])
  | [] => by simp [parts, leavesOf]
  | t :: ts => by
    rw [parts, leavesOf, List.forall_mem_cons, List.append_eq_nil_iff, core_eq_none_iff t,
      parts_eq_none_iff ts]

end

end Tree

/-- A query holds exactly if its tree does, whichever leaves hold, if analysis leaves any leaf. -/
theorem Query.holds_ofTree {analyzer : Analyzer} {config : Config} {field : String} {t : Tree}
    {q : Query} (lowered : Query.ofTree analyzer config field t = .ok q)
    (survives : t.leaves analyzer config field ≠ []) (v : Leaf → Bool) :
    t.holds analyzer config v field = some (q.holds v) := by
  rw [Query.ofTree] at lowered
  split at lowered
  · cases lowered
  rename_i u hu
  have hmeans := (Operand.hereditary_means analyzer config v).ofTree t hu
  have hquery : u.toQuery = q := by
    dsimp only at lowered
    split at lowered
    · exact Except.ok.inj lowered
    · cases lowered
  have hcore : u.query.map (Query.holds v) ≠ none := by
    rw [hmeans.core, ne_eq, Tree.core_eq_none_iff]
    exact survives
  cases hinner : u.query with
  | none => simp [hinner] at hcore
  | some inner =>
    rw [Tree.holds, ← hmeans.core, ← hmeans.mark, ← hquery, Operand.holds_toQuery hinner, hinner]
    rfl

/-- Side by side stand an empty phrase, which is dropped, a conjunction, which is spliced, and a
required term. -/
def Tree.threefold : Tree :=
  .group (.implicit .and) [.atom none (.phrase "" none),
    .group .and [.atom none (.term "a"), .prohibited (.atom none (.term "b"))],
    .required (.atom none (.term "c"))]

/-- The query of that tree. -/
def Query.threefold : Query :=
  .ofClauses [⟨.must, .leaf (.term "f" "a") Single.one⟩,
    ⟨.mustNot, .leaf (.term "f" "b") Single.one⟩, ⟨.must, .leaf (.term "f" "c") Single.one⟩]

theorem Query.holds_ofTree_threefold :
    Query.ofTree .keyword {} "f" Tree.threefold = .ok Query.threefold ∧
      Tree.threefold.leaves .keyword {} "f" ≠ [] ∧
      Tree.threefold.holds .keyword {} (· != .term "f" "b") "f" =
        some (Query.threefold.holds (· != .term "f" "b")) := by
  have hlowered : Query.ofTree .keyword {} "f" Tree.threefold = .ok Query.threefold := rfl
  have hleaves : Tree.threefold.leaves .keyword {} "f" ≠ [] := by decide
  exact ⟨hlowered, hleaves, Query.holds_ofTree hlowered hleaves _⟩

end SearchQuery
