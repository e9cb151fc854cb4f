import SearchQuery.Proofs.Lowering.Operands

/-!
How deep trees and queries go. Outlines go as deep as the tree that they show. Main statement: a
query goes no deeper than the tree that it is made from. The one node that lowering adds, the group
around a negated operand, takes the place of the sign before that operand.
-/

namespace SearchQuery

open Number (Single)

namespace Tree

/-- The parts that a tree is put together from. -/
def children : Tree → List Tree
  | .atom .. => []
  | .scope _ t | .boost _ t | .required t | .prohibited t => [t]
  | .group _ ts => ts

/-- The nodes on a way down from the root of a tree, each a child of the one before it. -/
inductive Descent : Tree → List Tree → Prop
  | here (t : Tree) : Descent t [t]
  | down {t child : Tree} {below : List Tree} (step : child ∈ t.children)
      (rest : Descent child below) : Descent t (t :: below)

mutual

/-- The number of nodes on the longest way down. -/
def height : Tree → Nat
  | .atom .. => 1
  | .scope _ t => t.height + 1
  | .group _ ts => heightAll ts + 1
  | .boost _ t => t.height + 1
  | .prohibited t => t.height + 1
  | .required t => t.height + 1

def heightAll : List Tree → Nat
  | [] => 0
  | t :: ts => max t.height (heightAll ts)

end

theorem heightAll_le_iff {ts : List Tree} {n : Nat} :
    heightAll ts ≤ n ↔ ∀ t ∈ ts, t.height ≤ n := by
  induction ts with
  | nil => simp [heightAll]
  | cons t ts ih => rw [heightAll, Nat.max_le, ih, List.forall_mem_cons]

theorem height_le_heightAll {ts : List Tree} {t : Tree} (h : t ∈ ts) : t.height ≤ heightAll ts :=
  heightAll_le_iff.mp (Nat.le_refl _) t h

theorem height_pos (t : Tree) : 0 < t.height := by
  cases t <;> simp [height]

theorem height_child_lt {t child : Tree} (h : child ∈ t.children) : child.height < t.height := by
  cases t with
  | atom => cases h
  | group junction ts => exact Nat.lt_succ_of_le (height_le_heightAll h)
  | _ =>
    obtain rfl := List.mem_singleton.mp h
    exact Nat.lt_succ_self _

/-- No way down has more nodes than the height counts. -/
theorem Descent.length_le_height {t : Tree} {path : List Tree} (h : t.Descent path) :
    path.length ≤ t.height := by
  induction h with
  | here t => exact t.height_pos
  | down step _ ih =>
    have hlt := height_child_lt step
    rw [List.length_cons]
    omega

/-- The line of a node stands before the lines of its children, which are indented once more. -/
theorem depth_lt_of_mem_cons {depth n : Nat} {label : String} {line : Nat × String}
    {below : List (Nat × String)} (hbelow : line ∈ below → line.1 < depth + 1 + n)
    (h : line ∈ (depth, label) :: below) : line.1 < depth + (n + 1) := by
  rcases List.mem_cons.mp h with rfl | h
  · exact Nat.lt_add_of_pos_right n.succ_pos
  · have hlt := hbelow h
    omega

mutual

/-- The lines of an outline are indented less than the tree is high. -/
theorem depth_lt_of_mem_outline {depth : Nat} {line : Nat × String} :
    (t : Tree) → line ∈ t.outline depth → line.1 < depth + t.height
  | .atom own a => by
    rw [outline]
    exact depth_lt_of_mem_cons fun h => by cases h
  | .scope field t => by
    rw [outline]
    exact depth_lt_of_mem_cons (depth_lt_of_mem_outline t)
  | .group junction ts => by
    rw [outline]
    exact depth_lt_of_mem_cons (depth_lt_of_mem_outlineAll ts)
  | .boost value t => by
    rw [outline]
    exact depth_lt_of_mem_cons (depth_lt_of_mem_outline t)
  | .prohibited t => by
    rw [outline]
    exact depth_lt_of_mem_cons (depth_lt_of_mem_outline t)
  | .required t => by
    rw [outline]
    exact depth_lt_of_mem_cons (depth_lt_of_mem_outline t)

theorem depth_lt_of_mem_outlineAll {depth : Nat} {line : Nat × String} :
    (ts : List Tree) → line ∈ outlineAll depth ts → line.1 < depth + heightAll ts
  | [], h => by
    rw [outlineAll] at h
    cases h
  | t :: ts, h => by
    rw [outlineAll, List.mem_append] at h
    rw [heightAll]
    rcases h with h | h
    · have hlt := depth_lt_of_mem_outline t h
      omega
    · have hlt := depth_lt_of_mem_outlineAll ts h
      omega

end

end Tree

namespace Query

mutual

/-- The number of queries, one within the other, on the longest way down. -/
def height : Query → Nat
  | .leaf .. => 1
  | .boolean clauses _ => clausesHeight clauses + 1

def clausesHeight : List (Clause Query) → Nat
  | [] => 0
  | ⟨_, query⟩ :: rest => max query.height (clausesHeight rest)

end

theorem clausesHeight_le_iff {clauses : List (Clause Query)} {n : Nat} :
    clausesHeight clauses ≤ n ↔ ∀ c ∈ clauses, c.query.height ≤ n := by
  induction clauses with
  | nil => simp [clausesHeight]
  | cons c rest ih => rw [clausesHeight, Nat.max_le, ih, List.forall_mem_cons]

@[simp] theorem height_withBoost (q : Query) (b : Single) :
    (q.withBoost b).height = q.height := by
  cases q <;> rfl

@[simp] theorem height_scale (q : Query) (b : Option Single) :
    (q.scale b).height = q.height := by
  cases b with
  | none => rfl
  | some b => exact height_withBoost q _

/-- A single clause adds one query around its own. -/
theorem height_boolean_singleton (c : Clause Query) (b : Single) :
    (boolean [c] b).height = c.query.height + 1 := by
  rw [height, clausesHeight, clausesHeight, Nat.max_zero]

end Query

namespace Operand

/-- What an operand takes up in a group: its query, and in a disjunction the group around it if it
is negated. -/
structure Shallow (n : Nat) (disjunctive : Bool) (u : Operand) : Prop where
  query : ∀ q, u.query = some q → q.height ≤ n
  negated : disjunctive = true → u.occur = some .mustNot → ∀ q, u.query = some q → q.height < n

theorem Shallow.succ {n : Nat} {disjunctive : Bool} {u : Operand} (h : u.Shallow n disjunctive) :
    u.Shallow (n + 1) disjunctive :=
  ⟨fun q hq => Nat.le_succ_of_le (h.query q hq),
    fun hor hoccur q hq => Nat.lt_succ_of_lt (h.negated hor hoccur q hq)⟩

theorem height_negation (q : Query) (boosts : List Single) :
    (negation q boosts).height = q.height + 1 := by
  match boosts with
  | [] => exact Query.height_boolean_singleton _ _
  | [_] => exact Query.height_boolean_singleton _ _
  | inner :: _ :: _ => rw [negation, Query.height_boolean_singleton, Query.height_scale]

theorem Shallow.place {n : Nat} {disjunctive : Bool} {u : Operand} (h : u.Shallow n disjunctive)
    {default : Occur} {c : Clause Query} (hc : u.place default disjunctive = some c) :
    c.query.height ≤ n := by
  obtain ⟨q, hq, rfl⟩ := Option.map_eq_some_iff.mp hc
  split
  · rename_i hnegated
    rw [height_negation]
    exact h.negated hnegated.2 hnegated.1 q hq
  · rw [Query.height_scale]
    exact h.query q hq

theorem Shallow.clauses {n : Nat} {junction : Junction} {u : Operand}
    (h : u.Shallow n (junction == .or)) {splice : Bool}
    (hsplice : splice = true → u.canSplice junction = true) {c : Clause Query}
    (hc : c ∈ u.clauses junction splice) : c.query.height ≤ n := by
  rcases clauses_cases hsplice with hplace | hspliced
  · rw [hplace, Option.mem_toList] at hc
    exact h.place hc
  · obtain ⟨j, boost, -, hquery⟩ := hspliced.exists_query
    have hle := h.query _ hquery
    have hclause := Query.clausesHeight_le_iff.mp (Nat.le_refl _) c hc
    rw [Query.height] at hle
    omega

/-- The operands that a group excludes are no disjuncts, so that their sign adds no group. -/
theorem shallow_excluding {n : Nat} (junction : Junction) {us : List Operand}
    (h : ∀ u ∈ us, u.Shallow n true) :
    ∀ u ∈ excluding junction us, u.Shallow n (junction == .or) := by
  have plain : ∀ u ∈ us, u.Shallow n false := fun u hu => ⟨(h u hu).query, by simp⟩
  cases junction with
  | or => exact h
  | and => exact plain
  | implicit o => exact plain
  | not => exact forall_mem_excluding .not (fun _ hu => ⟨hu.query, by simp⟩) plain

theorem shallow_ofClauses {n : Nat} {junction : Junction} {cs : List (Clause Query)}
    (h : ∀ c ∈ cs, c.query.height ≤ n) : (ofClauses junction cs).Shallow (n + 1) true := by
  have hall : (Query.ofClauses cs).height ≤ n + 1 :=
    Nat.succ_le_succ (Query.clausesHeight_le_iff.mpr h)
  match cs with
  | [] => exact ⟨by simp [ofClauses, empty], by simp [ofClauses, empty]⟩
  | [⟨occur, query⟩] =>
    have hquery : query.height ≤ n := h _ List.mem_cons_self
    rw [ofClauses]
    split
    · refine ⟨?_, by simp⟩
      rintro q ⟨⟩
      exact hall
    · refine ⟨?_, by simp [ofQuery]⟩
      rintro q ⟨⟩
      exact Nat.le_succ_of_le hquery
  | c :: c' :: rest =>
    refine ⟨?_, by simp [ofClauses]⟩
    rintro q ⟨⟩
    exact hall

/-- What bounds the operands of a group bounds the group one level up. -/
theorem shallow_group {n : Nat} {junction : Junction} {us : List Operand}
    (h : ∀ u ∈ us, u.Shallow n true) : (group junction us).Shallow (n + 1) true := by
  obtain ⟨splice, heq, hsplice⟩ := exists_group_eq junction us
  rw [heq]
  refine shallow_ofClauses fun c hc => ?_
  obtain ⟨u, hu, hc⟩ := List.mem_flatMap.mp hc
  exact (shallow_excluding junction h u hu).clauses (hsplice u hu) hc

theorem hereditary_shallow (analyzer : Analyzer) (config : Config) :
    Hereditary analyzer config fun _ t u => u.Shallow t.height true where
  atom _ _ _ _ _ := by
    refine ⟨fun q hq => ?_, by simp⟩
    obtain ⟨l, -, rfl⟩ := Option.map_eq_some_iff.mp hq
    exact Nat.le_refl 1
  scope _ _ _ _ h := h.succ
  boost _ _ _ u _ h hu := by
    rw [boost] at hu
    split at hu
    · cases hu
      exact ⟨h.succ.query, h.succ.negated⟩
    · cases hu
  required _ _ u h := by
    unfold require
    split
    · exact h.succ
    · exact ⟨h.succ.query, by simp⟩
  prohibited _ _ u h := ⟨h.succ.query, fun _ _ q hq => Nat.lt_succ_of_le (h.query q hq)⟩
  group field junction ts us h := by
    refine shallow_group fun u hu => ?_
    obtain ⟨t, ht, -, hshallow⟩ := h.exists_of_mem_right hu
    have hle := Tree.height_le_heightAll ht
    exact ⟨fun q hq => Nat.le_trans (hshallow.query q hq) hle,
      fun hor hoccur q hq => Nat.lt_of_lt_of_le (hshallow.negated hor hoccur q hq) hle⟩

/-- An operand that stands alone is a group of one prohibited clause if it is negated. -/
theorem Shallow.toQuery {n : Nat} {u : Operand} (h : u.Shallow n true) (hn : 0 < n) :
    u.toQuery.height ≤ n := by
  cases hquery : u.query with
  | none =>
    rw [Operand.toQuery, Operand.place, hquery]
    exact hn
  | some q =>
    rw [toQuery_eq hquery]
    split
    · rename_i hoccur
      rw [Query.ofClauses, Query.height_boolean_singleton, Query.height_scale]
      exact h.negated rfl hoccur q hquery
    · rw [Query.height_scale]
      exact h.query q hquery

end Operand

/-- A query goes no deeper than the tree that it is made from. -/
theorem Query.height_ofTree {analyzer : Analyzer} {config : Config} {field : String} {t : Tree}
    {q : Query} (h : Query.ofTree analyzer config field t = .ok q) : q.height ≤ t.height := by
  obtain ⟨u, hu, rfl, -⟩ := Query.ofTree_eq_ok_iff.mp h
  exact ((Operand.hereditary_shallow analyzer config).ofTree t hu).toQuery t.height_pos

end SearchQuery
