import Mathlib.Data.List.Basic
import SearchQuery.Except
import SearchQuery.Proofs.Lists
import SearchQuery.Query.OfTree

/-!
How operands come about and what they give to the group around them. Main statements: what holds of
atoms and is kept by scopes, boosts, signs and groups holds of every tree and the operand that it
makes, and an operand is one clause of its group unless its own clauses are spliced there.
-/

namespace SearchQuery

/-- The leaf of an atom in a field, if analysis leaves any. -/
def Atom.leaf? (analyzer : Analyzer) (config : Config) (field : String) (a : Atom) : Option Leaf :=
  match Leaf.ofAtom? analyzer config field a with
  | .ok leaf => leaf
  | .error _ => none

theorem Atom.leaf?_of_ofAtom? {analyzer : Analyzer} {config : Config} {field : String} {a : Atom}
    {leaf : Option Leaf} (h : Leaf.ofAtom? analyzer config field a = .ok leaf) :
    a.leaf? analyzer config field = leaf := by
  rw [Atom.leaf?, h]

namespace Operand

open Number (Single)

/-- A property of trees and their operands under a field that atoms have and that every other kind
of tree takes over from its parts. -/
structure Hereditary (analyzer : Analyzer) (config : Config)
    (P : String → Tree → Operand → Prop) : Prop where
  atom : ∀ field own a leaf, Leaf.ofAtom? analyzer config (own.getD field) a = .ok leaf →
    P field (.atom own a) { query := leaf.map (Query.leaf · Single.one) }
  scope : ∀ field inner t u, P inner t u → P field (.scope inner t) u
  boost : ∀ field value t u u', P field t u → u.boost value = .ok u' →
    P field (.boost value t) u'
  required : ∀ field t u, P field t u → P field (.required t) u.require
  prohibited : ∀ field t u, P field t u → P field (.prohibited t) u.prohibit
  group : ∀ field junction ts us,
    List.Forall₂ (fun t u => Operand.ofTree analyzer config field t = .ok u ∧ P field t u) ts us →
    P field (.group junction ts) (group junction us)

mutual

/-- A hereditary property holds of every tree and its operand. -/
theorem Hereditary.ofTree {analyzer : Analyzer} {config : Config}
    {P : String → Tree → Operand → Prop} (hp : Hereditary analyzer config P) {field : String}
    {u : Operand} : (t : Tree) → ofTree analyzer config field t = .ok u → P field t u
  | .atom own a, h => by
    obtain ⟨leaf, hleaf, rfl⟩ := Except.map_eq_ok_iff.mp h
    exact hp.atom field own a leaf hleaf
  | .scope inner t, h => hp.scope field inner t u (hp.ofTree t h)
  | .boost value t, h => by
    rw [Operand.ofTree] at h
    split at h
    · cases h
    · rename_i inner hinner
      cases hb : inner.boost value with
      | error e => rw [hb] at h; cases h
      | ok u' =>
        rw [hb] at h
        cases h
        exact hp.boost field value t inner u (hp.ofTree t hinner) hb
  | .required t, h => by
    obtain ⟨inner, hinner, rfl⟩ := Except.map_eq_ok_iff.mp h
    exact hp.required field t inner (hp.ofTree t hinner)
  | .prohibited t, h => by
    obtain ⟨inner, hinner, rfl⟩ := Except.map_eq_ok_iff.mp h
    exact hp.prohibited field t inner (hp.ofTree t hinner)
  | .group junction ts, h => by
    obtain ⟨us, hus, rfl⟩ := Except.map_eq_ok_iff.mp h
    exact hp.group field junction ts us (hp.ofTrees ts hus)

theorem Hereditary.ofTrees {analyzer : Analyzer} {config : Config}
    {P : String → Tree → Operand → Prop} (hp : Hereditary analyzer config P) {field : String}
    {us : List Operand} :
    (ts : List Tree) → ofTrees analyzer config field ts = .ok us →
      List.Forall₂ (fun t u => Operand.ofTree analyzer config field t = .ok u ∧ P field t u) ts us
  | [], h => by
    cases h
    exact .nil
  | t :: ts, h => by
    rw [Operand.ofTrees] at h
    split at h
    · cases h
    · rename_i u hu
      obtain ⟨us', hus', rfl⟩ := Except.map_eq_ok_iff.mp h
      exact .cons ⟨hu, hp.ofTree t hu⟩ (hp.ofTrees ts hus')

end

/-! ## Operands alone -/

theorem getD_ne_mustNot {sign : Option Occur} {default : Occur} (hsign : sign ≠ some .mustNot)
    (hdefault : default ≠ .mustNot) : sign.getD default ≠ .mustNot := by
  cases sign with
  | none => exact hdefault
  | some occur =>
    intro hoccur
    exact hsign (congrArg some hoccur)

/-- Alone, an operand is its query with the boost that binds to it, negated if it is prohibited. -/
theorem toQuery_eq {u : Operand} {q : Query} (h : u.query = some q) :
    u.toQuery = if u.occur = some .mustNot then .ofClauses [⟨.mustNot, q.scale u.bindingBoost⟩]
      else q.scale u.bindingBoost := by
  have hplace : u.place .must false = some ⟨u.occur.getD .must, q.scale u.bindingBoost⟩ := by
    simp [place, h]
  rw [toQuery, hplace]
  by_cases hnot : u.occur = some .mustNot
  · simp [hnot]
  · have hoccur := getD_ne_mustNot hnot (by simp : Occur.must ≠ .mustNot)
    simp [hnot, hoccur]

/-! ## The clauses of groups -/

theorem excluding_of_ne_not {junction : Junction} (h : junction ≠ .not) (us : List Operand) :
    excluding junction us = us := by
  unfold excluding
  split
  · exact absurd rfl h
  · rfl

theorem clauses_of_not_splice (junction : Junction) (u : Operand) :
    u.clauses junction false = (u.place junction.occur (junction == .or)).toList := by
  rw [clauses, Bool.false_and]
  cases u.query with
  | none => rfl
  | some q => cases q <;> rfl

theorem clauses_of_junction_none {junction : Junction} {u : Operand} (h : u.junction = none)
    (splice : Bool) : u.clauses junction splice = u.clauses junction false := by
  simp only [clauses, h, Option.isSome_none, Bool.and_false]

/-- When the clauses of an operand stand in the group around it. -/
inductive Spliced : Junction → Operand → List (Clause Query) → Prop
  | conjunction {u : Operand} {cs : List (Clause Query)} {boost : Single}
      (query : u.query = some (.boolean cs boost)) (unboosted : u.boosts = [])
      (joined : u.junction = some .and) (kept : u.occur ≠ some .mustNot) :
      Spliced (.implicit .and) u cs
  | disjunction {u : Operand} {cs : List (Clause Query)} {boost : Single}
      (query : u.query = some (.boolean cs boost)) (unboosted : u.boosts = [])
      (joined : u.junction = some .or) (unsigned : u.occur = none)
      (optional : isDisjunction cs = true) : Spliced (.implicit .or) u cs

/-- What is spliced is a group. -/
theorem Spliced.exists_query {junction : Junction} {u : Operand} {cs : List (Clause Query)}
    (h : Spliced junction u cs) :
    ∃ j boost, u.junction = some j ∧ u.query = some (.boolean cs boost) := by
  cases h with
  | conjunction query _ joined _ => exact ⟨_, _, joined, query⟩
  | disjunction query _ joined _ _ => exact ⟨_, _, joined, query⟩

/-- What lets the group around an operand be flattened: that analysis dropped it, that it is a leaf
whose sign the junction leaves as it is, or that its clauses can stand there. -/
inductive Flat : Junction → Operand → Prop
  | dropped {junction : Junction} {u : Operand} (absent : u.query = none) : Flat junction u
  | requiredLeaf {u : Operand} {l : Leaf} {boost : Single} (query : u.query = some (.leaf l boost))
      (kept : u.occur ≠ some .mustNot) : Flat (.implicit .and) u
  | optionalLeaf {u : Operand} {l : Leaf} {boost : Single} (query : u.query = some (.leaf l boost))
      (unsigned : u.occur = none) : Flat (.implicit .or) u
  | spliced {junction : Junction} {u : Operand} {cs : List (Clause Query)}
      (spliced : Spliced junction u cs) : Flat junction u

/-- The test that a group makes of each operand before it is flattened. -/
theorem canSplice_iff {junction : Junction} {u : Operand} :
    u.canSplice junction = true ↔ Flat junction u := by
  constructor
  · intro h
    match hquery : u.query with
    | none => exact .dropped hquery
    | some (.leaf l b) =>
      simp only [canSplice, hquery, isLeaf, Option.isNone_some, Option.any_some, Query.isBoolean,
        Bool.not_false, Bool.false_or, Bool.true_or, Bool.and_true] at h
      split at h
      · exact .requiredLeaf hquery (bne_iff_ne.mp h)
      · exact .optionalLeaf hquery (Option.isNone_iff_eq_none.mp h)
      · cases h
    | some (.boolean cs b) =>
      simp only [canSplice, hquery, isLeaf, isOptional, Option.isNone_some, Option.any_some,
        Query.isBoolean, Bool.not_true, Bool.false_or] at h
      split at h
      · simp only [Bool.and_eq_true, bne_iff_ne, ne_eq, List.isEmpty_iff, beq_iff_eq] at h
        exact .spliced (.conjunction hquery h.2.1 h.2.2 h.1)
      · simp only [Bool.and_eq_true, Option.isNone_iff_eq_none, List.isEmpty_iff, beq_iff_eq] at h
        exact .spliced (.disjunction hquery h.2.1.1 h.2.1.2 h.1 h.2.2)
      · cases h
  · intro h
    cases h with
    | dropped absent => simp [canSplice, absent]
    | requiredLeaf query kept => simp [canSplice, isLeaf, query, kept, Query.isBoolean]
    | optionalLeaf query unsigned => simp [canSplice, isLeaf, query, unsigned, Query.isBoolean]
    | spliced spliced =>
      cases spliced with
      | conjunction query unboosted joined kept => simp [canSplice, unboosted, joined, kept]
      | disjunction query unboosted joined unsigned optional =>
        simp [canSplice, isOptional, query, unboosted, joined, unsigned, optional]

theorem Spliced.clauses_eq {junction : Junction} {u : Operand} {cs : List (Clause Query)}
    (h : Spliced junction u cs) : u.clauses junction true = cs := by
  obtain ⟨j, boost, hjunction, hquery⟩ := h.exists_query
  simp [clauses, hquery, hjunction]

/-- An operand is one clause of the group around it, or none, unless it is spliced. -/
theorem clauses_cases {junction : Junction} {splice : Bool} {u : Operand}
    (h : splice = true → u.canSplice junction = true) :
    u.clauses junction splice = (u.place junction.occur (junction == .or)).toList ∨
      Spliced junction u (u.clauses junction splice) := by
  cases splice with
  | false => exact .inl (clauses_of_not_splice junction u)
  | true =>
    cases canSplice_iff.mp (h rfl) with
    | dropped absent => exact .inl (by simp [clauses, place, absent])
    | requiredLeaf query | optionalLeaf query => exact .inl (by simp [clauses, query])
    | spliced spliced => exact .inr (spliced.clauses_eq.symm ▸ spliced)

/-- The clauses of a group are those of its operands, which are spliced only if all can be. -/
theorem exists_group_eq (junction : Junction) (us : List Operand) :
    ∃ splice, group junction us =
        ofClauses junction ((excluding junction us).flatMap (clauses junction splice)) ∧
      ∀ u ∈ excluding junction us, splice = true → u.canSplice junction = true := by
  refine ⟨us.all (canSplice junction), rfl, fun u hu hall => ?_⟩
  rw [List.all_eq_true] at hall
  by_cases hnot : junction = .not
  · subst hnot
    cases us with
    | nil => cases hu
    | cons first rest =>
      rcases List.mem_cons.mp hu with rfl | hu
      · exact hall u (by simp)
      · -- What an operand of this group is called does not matter to whether it can be spliced.
        obtain ⟨w, hw, rfl⟩ := List.mem_map.mp hu
        exact hall w (List.mem_cons_of_mem first hw)
  · rw [excluding_of_ne_not hnot] at hu
    exact hall u hu

/-! ## The shape of operands -/

/-- An operand is never marked as optional, and a group that is not a single clause has clauses, none
of them optional in a conjunction, and no boost of its own. -/
structure Shaped (u : Operand) : Prop where
  marked : u.occur ≠ some .should
  grouped : ∀ j, u.junction = some j → ∃ cs, u.query = some (.ofClauses cs) ∧ cs ≠ [] ∧
    (j = .and → ∀ c ∈ cs, c.occur ≠ .should)

/-- An operand has clauses exactly if it has a query. -/
theorem clauses_eq_nil_iff {junction : Junction} {splice : Bool} {u : Operand} (shaped : u.Shaped)
    (h : splice = true → u.canSplice junction = true) :
    u.clauses junction splice = [] ↔ u.query = none := by
  rcases clauses_cases h with hplace | hspliced
  · rw [hplace, place]
    cases u.query <;> simp
  · obtain ⟨j, boost, hjunction, hquery⟩ := hspliced.exists_query
    obtain ⟨cs, hquery', nonempty, -⟩ := shaped.grouped j hjunction
    rw [hquery] at hquery'
    cases hquery'
    simp [hquery, nonempty]

/-- Several clauses make a query of their own. -/
theorem ofClauses_of_several (junction : Junction) {cs : List (Clause Query)} (h : 2 ≤ cs.length) :
    ofClauses junction cs = { query := some (.ofClauses cs), junction := some junction } := by
  match cs, h with
  | _ :: _ :: _, _ => rfl

theorem shaped_ofClauses {junction : Junction} {cs : List (Clause Query)}
    (h : junction = .and → ∀ c ∈ cs, c.occur ≠ .should) : (ofClauses junction cs).Shaped := by
  unfold ofClauses
  split
  · exact ⟨by simp [empty], by simp [empty]⟩
  · rename_i occur query
    split
    · refine ⟨by simp, fun j hj => ⟨_, rfl, by simp, fun hand => ?_⟩⟩
      rw [Option.some.injEq] at hj
      exact h (hj.trans hand)
    · exact ⟨by simp [ofQuery], by simp [ofQuery]⟩
  · rename_i hnil _
    refine ⟨by simp, fun j hj => ⟨_, rfl, hnil, fun hand => ?_⟩⟩
    rw [Option.some.injEq] at hj
    exact h (hj.trans hand)

/-- What does not depend on the sign of an operand holds of the excluded ones too. -/
theorem forall_mem_excluding {P : Operand → Prop} (junction : Junction) {us : List Operand}
    (excluded : ∀ u, P u → P { u with occur := some .mustNot }) (h : ∀ u ∈ us, P u) :
    ∀ u ∈ excluding junction us, P u := by
  by_cases hnot : junction = .not
  · subst hnot
    cases us with
    | nil => exact h
    | cons first rest =>
      intro u hu
      rcases List.mem_cons.mp hu with rfl | hu
      · exact h u (by simp)
      · obtain ⟨w, hw, rfl⟩ := List.mem_map.mp hu
        exact excluded w (h w (List.mem_cons_of_mem first hw))
  · rwa [excluding_of_ne_not hnot]

theorem shaped_excluding (junction : Junction) {us : List Operand} (h : ∀ u ∈ us, u.Shaped) :
    ∀ u ∈ excluding junction us, u.Shaped :=
  forall_mem_excluding junction (fun _ shaped => ⟨by simp, shaped.grouped⟩) h

/-- In a conjunction every operand is a clause of its own, required or prohibited. -/
theorem shaped_group_and {us : List Operand} (h : ∀ u ∈ us, u.Shaped) : (group .and us).Shaped := by
  obtain ⟨splice, heq, hsplice⟩ := exists_group_eq .and us
  rw [heq, excluding_of_ne_not (by simp)] at *
  refine shaped_ofClauses fun _ c hc => ?_
  obtain ⟨u, hu, hc⟩ := List.mem_flatMap.mp hc
  rcases clauses_cases (hsplice u hu) with hplace | hspliced
  · rw [hplace, Option.mem_toList, place] at hc
    obtain ⟨q, -, rfl⟩ := Option.map_eq_some_iff.mp hc
    have hmark := (h u hu).marked
    cases hoccur : u.occur with
    | none => simp [Junction.occur]
    | some occur =>
      rw [hoccur, ne_eq, Option.some.injEq] at hmark
      simpa using hmark
  · cases hspliced

theorem shaped_group {junction : Junction} {us : List Operand} (h : ∀ u ∈ us, u.Shaped) :
    (group junction us).Shaped := by
  by_cases hand : junction = .and
  · exact hand ▸ shaped_group_and h
  · exact shaped_ofClauses fun h => absurd h hand

/-- Excluding an operand does not change its query. -/
theorem map_query_excluding (junction : Junction) (us : List Operand) :
    (excluding junction us).map (·.query) = us.map (·.query) := by
  unfold excluding
  split
  · simp
  · rfl

theorem exists_mem_of_mem_excluding {junction : Junction} {us : List Operand} {u : Operand}
    (h : u ∈ excluding junction us) : ∃ w ∈ us, w.query = u.query := by
  have hmem : u.query ∈ us.map (·.query) := by
    rw [← map_query_excluding junction us]
    exact List.mem_map_of_mem h
  exact List.mem_map.mp hmem

/-- Operands that all have a query have at least as many clauses. -/
theorem length_le_clauses {junction : Junction} {splice : Bool} {us : List Operand}
    (shaped : ∀ u ∈ us, u.Shaped) (h : ∀ u ∈ us, u.query ≠ none)
    (hsplice : ∀ u ∈ us, splice = true → u.canSplice junction = true) :
    us.length ≤ (us.flatMap (clauses junction splice)).length := by
  induction us with
  | nil => exact Nat.le_refl _
  | cons u us ih =>
    rw [List.forall_mem_cons] at shaped h hsplice
    have hpos : 0 < (u.clauses junction splice).length := by
      rw [List.length_pos_iff, ne_eq, clauses_eq_nil_iff shaped.1 hsplice.1]
      exact h.1
    have hrest := ih shaped.2 h.2 hsplice.2
    rw [List.flatMap_cons, List.length_append, List.length_cons]
    omega

/-- A group of which every operand has a query is no single clause. -/
theorem exists_group_of_several (junction : Junction) {us : List Operand} (several : 2 ≤ us.length)
    (shaped : ∀ u ∈ us, u.Shaped) (h : ∀ u ∈ us, u.query ≠ none) :
    ∃ splice cs, cs = (excluding junction us).flatMap (clauses junction splice) ∧
      (∀ u ∈ excluding junction us, splice = true → u.canSplice junction = true) ∧
      2 ≤ cs.length ∧
      group junction us = { query := some (.ofClauses cs), junction := some junction } := by
  obtain ⟨splice, heq, hsplice⟩ := exists_group_eq junction us
  have hquery : ∀ u ∈ excluding junction us, u.query ≠ none := by
    intro u hu
    obtain ⟨w, hw, hqueries⟩ := exists_mem_of_mem_excluding hu
    rw [← hqueries]
    exact h w hw
  have hlength : (excluding junction us).length = us.length := by
    simpa using congrArg List.length (map_query_excluding junction us)
  have hclauses := length_le_clauses (shaped_excluding junction shaped) hquery hsplice
  have htwo : 2 ≤ ((excluding junction us).flatMap (clauses junction splice)).length := by omega
  exact ⟨splice, _, rfl, hsplice, htwo, heq.trans (ofClauses_of_several junction htwo)⟩

theorem hereditary_shaped (analyzer : Analyzer) (config : Config) :
    Hereditary analyzer config fun _ _ u => u.Shaped where
  atom _ _ _ _ _ := ⟨by simp, by simp⟩
  scope _ _ _ _ h := h
  boost _ value _ u u' h hu := by
    rw [boost] at hu
    split at hu
    · cases hu
      exact ⟨h.marked, h.grouped⟩
    · cases hu
  required _ _ u h := by
    unfold require
    split
    · exact h
    · exact ⟨by simp, h.grouped⟩
  prohibited _ _ u h := ⟨by simp [prohibit], h.grouped⟩
  group _ junction ts us h := by
    refine shaped_group fun u hu => ?_
    obtain ⟨t, -, -, hshaped⟩ := h.exists_of_mem_right hu
    exact hshaped

end Operand

/-- A tree has a query exactly if it has an operand, and the query of that has not too many
clauses. -/
theorem Query.ofTree_eq_ok_iff {analyzer : Analyzer} {config : Config} {field : String} {t : Tree}
    {q : Query} : Query.ofTree analyzer config field t = .ok q ↔
      ∃ u, Operand.ofTree analyzer config field t = .ok u ∧ u.toQuery = q ∧
        q.clauseCount ≤ config.maxClauseCount.toNat := by
  unfold Query.ofTree
  cases Operand.ofTree analyzer config field t with
  | error e => simp
  | ok u =>
    simp only [Except.ok.injEq, exists_eq_left']
    constructor
    · intro h
      split at h
      · cases h
        exact ⟨rfl, ‹_›⟩
      · cases h
    · rintro ⟨rfl, hcount⟩
      exact if_pos hcount

end SearchQuery
