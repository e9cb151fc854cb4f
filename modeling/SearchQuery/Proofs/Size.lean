import Mathlib.Algebra.GroupWithZero.Nat
import SearchQuery.Proofs.Grouping
import SearchQuery.Proofs.Scope

/-!
How large queries get. Every prohibited clause of a query is charged to a negation of its tree: a
sign that prohibits, or an operand that a junction excludes. A group of one clause is a prohibition,
and groups of several clauses are fewer than the leaves. Main statement: the clauses of a query are
bounded by its leaves and the negations of its tree, and the limit on them decides only whether that
query is returned.
-/

namespace SearchQuery

open Number (Single)

namespace Tree

mutual

/-- The number of negations in a tree: signs that prohibit, and operands that are excluded because
they are not the first of their group. -/
def negations : Tree → Nat
  | atom .. => 0
  | scope _ child | boost _ child | required child => negations child
  | prohibited child => negations child + 1
  | group junction children =>
    (if junction = .not then children.length - 1 else 0) + negationsOf children

/-- The number of negations in several trees. -/
def negationsOf : List Tree → Nat
  | [] => 0
  | tree :: rest => negations tree + negationsOf rest

end

end Tree

namespace Query

mutual

/-- The number of prohibited clauses of a query and of all queries within it. -/
def prohibitions : Query → Nat
  | leaf .. => 0
  | boolean clauses _ => clauseProhibitions clauses

/-- The number of prohibited clauses among the given ones and within them. -/
def clauseProhibitions : List (Clause Query) → Nat
  | [] => 0
  | ⟨occur, query⟩ :: rest =>
    (if occur = .mustNot then 1 else 0) + prohibitions query + clauseProhibitions rest

end

@[simp] theorem prohibitions_boolean (cs : List (Clause Query)) (b : Single) :
    (boolean cs b).prohibitions = clauseProhibitions cs := by
  rw [prohibitions]

@[simp] theorem prohibitions_ofClauses (cs : List (Clause Query)) :
    (ofClauses cs).prohibitions = clauseProhibitions cs :=
  prohibitions_boolean cs Single.one

@[simp] theorem prohibitions_scale (q : Query) (b : Option Single) :
    (q.scale b).prohibitions = q.prohibitions := by
  cases b with
  | none => rfl
  | some b => cases q <;> simp only [scale, withBoost, prohibitions]

@[simp] theorem clauseProhibitions_nil : clauseProhibitions [] = 0 := by
  rw [clauseProhibitions]

@[simp] theorem clauseProhibitions_cons (c : Clause Query) (cs : List (Clause Query)) :
    clauseProhibitions (c :: cs) =
      (if c.occur = .mustNot then 1 else 0) + c.query.prohibitions + clauseProhibitions cs := by
  rw [clauseProhibitions]

theorem clauseProhibitions_append (cs cs' : List (Clause Query)) :
    clauseProhibitions (cs ++ cs') = clauseProhibitions cs + clauseProhibitions cs' := by
  induction cs with
  | nil => simp
  | cons c cs ih =>
    rw [List.cons_append, clauseProhibitions_cons, clauseProhibitions_cons, ih]
    omega

/-! ## Clauses and leaves -/

/-- If what one clause holds is bounded, so are several: each clause adds one to what it holds, and
its leaf count leaves room for two. -/
theorem countClauses_add_length_le {cs : List (Clause Query)}
    (h : ∀ c ∈ cs, c.query.clauseCount + 2 ≤ 2 * c.query.leaves.length + c.query.prohibitions) :
    countClauses cs + cs.length ≤
      2 * (cs.flatMap (·.query.leaves)).length + clauseProhibitions cs := by
  induction cs with
  | nil => simp [countClauses]
  | cons c cs ih =>
    rw [List.forall_mem_cons] at h
    have hrest := ih h.2
    have hfirst := h.1
    simp only [countClauses, List.flatMap_cons, List.length_append, List.length_cons,
      clauseProhibitions_cons]
    omega

/-- A query with no group out of shape has fewer than two clauses for each leaf, but for its
prohibitions: a group of several clauses joins leaves, and a group of one is a prohibition. -/
theorem Grouped.clauseCount_add_two_le {q : Query} (h : q.Grouped) :
    q.clauseCount + 2 ≤ 2 * q.leaves.length + q.prohibitions := by
  induction h with
  | leaf => simp [clauseCount, leaves, prohibitions]
  | @several cs boost several _ ih =>
    have hsum := countClauses_add_length_le ih
    rw [clauseCount, leaves_boolean, prohibitions_boolean]
    omega
  | prohibition _ ih =>
    simp only [clauseCount, countClauses, leaves_boolean, List.flatMap_cons, List.flatMap_nil,
      List.append_nil, prohibitions_boolean, clauseProhibitions_cons, clauseProhibitions_nil,
      ↓reduceIte]
    omega

end Query

/-! ## Prohibitions and negations -/

namespace Operand

/-- The prohibitions within the query of an operand, and the operand itself if it is prohibited. -/
def prohibitions (u : Operand) : Nat :=
  u.query.elim 0 Query.prohibitions + if u.occur = some .mustNot then 1 else 0

theorem prohibitions_negation (q : Query) (boosts : List Single) :
    (negation q boosts).prohibitions = q.prohibitions + 1 := by
  match boosts with
  | [] => simp [negation, Nat.add_comm]
  | [_] => simp [negation, Nat.add_comm]
  | _ :: _ :: _ => simp [negation, Nat.add_comm]

theorem occur_ne_mustNot (junction : Junction) : junction.occur ≠ .mustNot := by
  match junction with
  | .and | .or | .not | .implicit .and | .implicit .or => simp [Junction.occur, Operator.occur]

/-- However it is placed, an operand makes no prohibition that it does not have: a prohibited one
becomes a prohibited clause or a negation. -/
theorem prohibitions_place_le (u : Operand) {default : Occur} (hdefault : default ≠ .mustNot)
    (disjunctive : Bool) :
    Query.clauseProhibitions (u.place default disjunctive).toList ≤ u.prohibitions := by
  rw [place, prohibitions]
  cases u.query with
  | none => simp
  | some q =>
    by_cases hnot : u.occur = some .mustNot
    · cases disjunctive with
      | true => simp [hnot, hdefault, prohibitions_negation]
      | false => simp [hnot, Nat.add_comm]
    · simp [hnot, getD_ne_mustNot hnot hdefault]

theorem prohibitions_clauses_le {junction : Junction} {splice : Bool} {u : Operand}
    (h : splice = true → u.canSplice junction = true) :
    Query.clauseProhibitions (u.clauses junction splice) ≤ u.prohibitions := by
  rcases clauses_cases h with hplace | hspliced
  · rw [hplace]
    exact prohibitions_place_le u (occur_ne_mustNot junction) _
  · obtain ⟨j, boost, -, hquery⟩ := hspliced.exists_query
    rw [prohibitions, hquery, Option.elim_some, Query.prohibitions_boolean]
    omega

theorem prohibitions_flatMap_clauses_le {junction : Junction} {splice : Bool} {us : List Operand}
    (h : ∀ u ∈ us, splice = true → u.canSplice junction = true) :
    Query.clauseProhibitions (us.flatMap (clauses junction splice)) ≤
      (us.map prohibitions).sum := by
  induction us with
  | nil => simp
  | cons u us ih =>
    rw [List.forall_mem_cons] at h
    have hfirst := prohibitions_clauses_le h.1
    have hrest := ih h.2
    rw [List.flatMap_cons, Query.clauseProhibitions_append, List.map_cons, List.sum_cons]
    omega

/-- Clauses keep their prohibitions when they become an operand. -/
theorem prohibitions_ofClauses (junction : Junction) (cs : List (Clause Query)) :
    (ofClauses junction cs).prohibitions = Query.clauseProhibitions cs := by
  match cs with
  | [] => rfl
  | [⟨occur, query⟩] =>
    rw [ofClauses]
    split
    · simp [prohibitions]
    · rename_i hoccur
      simp [prohibitions, ofQuery, hoccur]
  | _ :: _ :: _ => simp [ofClauses, prohibitions]

theorem prohibitions_exclude_le (us : List Operand) :
    ((us.map fun u => { u with occur := some .mustNot }).map prohibitions).sum ≤
      us.length + (us.map prohibitions).sum := by
  induction us with
  | nil => simp
  | cons u us ih =>
    have hfirst : prohibitions { u with occur := some .mustNot } ≤ 1 + u.prohibitions := by
      simp only [prohibitions, ↓reduceIte]
      omega
    simp only [List.map_cons, List.sum_cons, List.length_cons]
    omega

/-- A junction adds a prohibition for each operand that it excludes. -/
theorem prohibitions_excluding_le (junction : Junction) (us : List Operand) :
    ((excluding junction us).map prohibitions).sum ≤
      (if junction = .not then us.length - 1 else 0) + (us.map prohibitions).sum := by
  by_cases hnot : junction = .not
  · subst hnot
    cases us with
    | nil => simp [excluding]
    | cons first rest =>
      have hrest := prohibitions_exclude_le rest
      simp only [excluding, ↓reduceIte, List.map_cons, List.sum_cons, List.length_cons]
      omega
  · rw [excluding_of_ne_not hnot, if_neg hnot, Nat.zero_add]

theorem prohibitions_group_le (junction : Junction) (us : List Operand) :
    (group junction us).prohibitions ≤
      (if junction = .not then us.length - 1 else 0) + (us.map prohibitions).sum := by
  obtain ⟨splice, heq, hsplice⟩ := exists_group_eq junction us
  rw [heq, prohibitions_ofClauses]
  exact Nat.le_trans (prohibitions_flatMap_clauses_le hsplice) (prohibitions_excluding_le junction us)

theorem prohibitions_boost {u u' : Operand} {value : Single} (h : u.boost value = .ok u') :
    u'.prohibitions = u.prohibitions := by
  rw [boost] at h
  split at h
  · cases h
    rfl
  · cases h

theorem prohibitions_require_le (u : Operand) : u.require.prohibitions ≤ u.prohibitions := by
  unfold require
  split
  · exact Nat.le_refl _
  · simp [prohibitions]

theorem prohibitions_prohibit_le (u : Operand) : u.prohibit.prohibitions ≤ u.prohibitions + 1 := by
  simp only [prohibitions, prohibit, ↓reduceIte]
  omega

theorem sum_prohibitions_le {ts : List Tree} {us : List Operand}
    (h : List.Forall₂ (fun t u => prohibitions u ≤ t.negations) ts us) :
    (us.map prohibitions).sum ≤ Tree.negationsOf ts := by
  induction h with
  | nil => simp
  | cons hfirst _ ih =>
    rw [List.map_cons, List.sum_cons, Tree.negationsOf]
    omega

/-- Every prohibition of an operand comes from a negation of its tree. -/
theorem hereditary_prohibitions_le (analyzer : Analyzer) (config : Config) :
    Hereditary analyzer config fun _ t u => u.prohibitions ≤ t.negations where
  atom _ _ _ leaf _ := by
    cases leaf <;> simp [prohibitions, Query.prohibitions]
  scope _ _ t u h := by rwa [Tree.negations]
  boost _ _ t u u' h hu := by rwa [prohibitions_boost hu, Tree.negations]
  required _ t u h := by
    rw [Tree.negations]
    exact Nat.le_trans (prohibitions_require_le u) h
  prohibited _ t u h := by
    rw [Tree.negations]
    exact Nat.le_trans (prohibitions_prohibit_le u) (Nat.add_le_add_right h 1)
  group _ junction ts us h := by
    have hgroup := prohibitions_group_le junction us
    have hsum := sum_prohibitions_le (h.imp fun _ _ => And.right)
    rw [← h.length_eq] at hgroup
    rw [Tree.negations]
    omega

theorem prohibitions_toQuery_le (u : Operand) : u.toQuery.prohibitions ≤ u.prohibitions := by
  cases hquery : u.query with
  | none => simp [toQuery, place, hquery, Query.empty]
  | some q =>
    rw [toQuery_eq hquery, prohibitions, hquery]
    split <;> simp [Nat.add_comm]

end Operand

/-! ## The limit -/

namespace Query

/-- The query of a tree, however many clauses it has. -/
def ofTreeUnlimited (analyzer : Analyzer) (config : Config) (field : String) (tree : Tree) :
    Except Error Query :=
  (Operand.ofTree analyzer config field tree).map Operand.toQuery

/-- A limit lets the query of a tree through or reports how many clauses it has. -/
theorem ofTree_of_unlimited {analyzer : Analyzer} {config : Config} {field : String} {t : Tree}
    {q : Query} (lowered : ofTreeUnlimited analyzer config field t = .ok q) (limit : UInt64) :
    ofTree analyzer { config with maxClauseCount := limit } field t =
      if q.clauseCount ≤ limit.toNat then .ok q
      else .error (.tooManyClauses limit.toNat q.clauseCount) := by
  obtain ⟨u, hu, rfl⟩ := Except.map_eq_ok_iff.mp lowered
  have hsame : ∀ field a, Leaf.ofAtom? analyzer { config with maxClauseCount := limit } field a =
      Leaf.ofAtom? analyzer config field a := by
    intro field a
    cases a <;> rfl
  rw [ofTree, Operand.ofTree_congr hsame t, hu]

/-- A query with leaves has at most two clauses for each of them but one, and one more for each
negation of its tree. A limit on clauses changes nothing but whether that query is returned. -/
theorem clauseCount_ofTree_le {analyzer : Analyzer} {config : Config} {field : String} {t : Tree}
    {q : Query} (lowered : ofTreeUnlimited analyzer config field t = .ok q)
    (nonempty : 1 ≤ q.leaves.length) :
    q.clauseCount ≤ 2 * (q.leaves.length - 1) + t.negations ∧
      ∀ limit : UInt64, ofTree analyzer { config with maxClauseCount := limit } field t =
        if q.clauseCount ≤ limit.toNat then .ok q
        else .error (.tooManyClauses limit.toNat q.clauseCount) := by
  refine ⟨?_, ofTree_of_unlimited lowered⟩
  obtain ⟨u, hu, rfl⟩ := Except.map_eq_ok_iff.mp lowered
  have hgrouped : u.toQuery.Grouped := by
    rcases Operand.toQuery_cases ((Operand.hereditary_grouped analyzer config).ofTree t hu) with
      hgrouped | hempty
    · exact hgrouped
    · rw [hempty] at nonempty
      exact absurd nonempty (by decide)
  have hsize := hgrouped.clauseCount_add_two_le
  have hcharged : u.toQuery.prohibitions ≤ t.negations :=
    Nat.le_trans (Operand.prohibitions_toQuery_le u)
      ((Operand.hereditary_prohibitions_le analyzer config).ofTree t hu)
  omega

end Query

/-- Two alternatives that are both negated, the first of them an exclusion of which analysis drops the
operand that is kept. -/
def Tree.denials : Tree :=
  .group .or [
    .prohibited (.group .not [.atom none (.phrase "" none), .atom none (.term "a")]),
    .prohibited (.atom none (.term "b"))]

/-- The query of that tree, in which every group but the outermost is a single prohibition. -/
def Query.denials : Query :=
  .ofClauses [
    ⟨.should, .ofClauses [⟨.mustNot, .ofClauses [⟨.mustNot, .leaf (.term "f" "a") Single.one⟩]⟩]⟩,
    ⟨.should, .ofClauses [⟨.mustNot, .leaf (.term "f" "b") Single.one⟩]⟩]

/-- The bound is reached, and a limit just below it is exceeded. -/
theorem Query.clauseCount_ofTree_le_denials :
    Query.ofTreeUnlimited .keyword {} "f" Tree.denials = .ok Query.denials ∧
      Query.denials.leaves.length = 2 ∧ Query.denials.clauseCount = 5 ∧
      Query.denials.clauseCount ≤ 2 * (2 - 1) + Tree.denials.negations ∧
      Tree.denials.negations = 3 ∧
      Query.ofTree .keyword { maxClauseCount := 4 } "f" Tree.denials =
        .error (.tooManyClauses 4 5) := by
  have hlowered : Query.ofTreeUnlimited .keyword {} "f" Tree.denials = .ok Query.denials := rfl
  obtain ⟨hsize, hlimit⟩ := Query.clauseCount_ofTree_le hlowered (by decide)
  exact ⟨hlowered, rfl, rfl, hsize, rfl, hlimit 4⟩

end SearchQuery
