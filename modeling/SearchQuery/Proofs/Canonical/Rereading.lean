import SearchQuery.Proofs.Bare
import SearchQuery.Proofs.Canonical.RoundTrip
import SearchQuery.Proofs.Lowering.Meaning

/-!
The queries of bare texts, and what their canonical texts are read as. A negated operand of a
disjunction becomes an optional clause that holds the negation in a group of its own. Its text is a
prohibition in parentheses, and these vanish when the text is read, so that the clause comes back as
a prohibited one. Main statement: everything else in the query of a bare text comes back as it was.
-/

namespace SearchQuery

open Grammar (Sequence Unary)
open Number (Single)

mutual

/-- Whether some operand of a disjunction is negated. -/
def Tree.negatesAlternative : Tree → Bool
  | .atom .. => false
  | .scope _ child | .boost _ child => negatesAlternative child
  | .required child | .prohibited child => negatesAlternative child
  | .group junction children =>
    (junction == .or && children.any (·.mark == some .mustNot)) || negateAlternatives children

def Tree.negateAlternatives : List Tree → Bool
  | [] => false
  | tree :: rest => negatesAlternative tree || negateAlternatives rest

end

theorem Tree.negateAlternatives_eq (ts : List Tree) :
    negateAlternatives ts = ts.any negatesAlternative := by
  induction ts with
  | nil => rfl
  | cons t ts ih => rw [negateAlternatives, ih, List.any_cons]

/-- Takes a prohibition that is an optional clause out of the group of its own. -/
def Clause.unwrap : Clause Query → Clause Query
  | ⟨.should, .boolean [⟨.mustNot, query⟩] _⟩ => ⟨.mustNot, query⟩
  | c => c

namespace Query

mutual

/-- The query without the groups around single prohibitions. -/
def reread : Query → Query
  | leaf l boost => leaf l boost
  | boolean clauses boost => boolean (rereadClauses clauses) boost

def rereadClauses : List (Clause Query) → List (Clause Query)
  | [] => []
  | ⟨occur, query⟩ :: rest => Clause.unwrap ⟨occur, reread query⟩ :: rereadClauses rest

end

/-- One clause without such groups. -/
def rereadClause (c : Clause Query) : Clause Query := Clause.unwrap ⟨c.occur, reread c.query⟩

theorem rereadClauses_eq (clauses : List (Clause Query)) :
    rereadClauses clauses = clauses.map rereadClause := by
  induction clauses with
  | nil => rfl
  | cons c rest ih => rw [rereadClauses, ih, List.map_cons, rereadClause]

theorem reread_ofClauses (clauses : List (Clause Query)) :
    (ofClauses clauses).reread = ofClauses (clauses.map rereadClause) := by
  rw [ofClauses, reread, rereadClauses_eq, ofClauses]

theorem reread_ofClauses_eq_iff {clauses : List (Clause Query)} :
    (ofClauses clauses).reread = ofClauses clauses ↔ ∀ c ∈ clauses, rereadClause c = c := by
  have hmap := List.map_inj_left (f := rereadClause) (g := id) (l := clauses)
  rw [List.map_id] at hmap
  rw [reread_ofClauses, ofClauses, ofClauses, boolean.injEq, and_iff_left rfl, hmap]
  rfl

/-- The clauses of the queries of bare texts. A word or a group may have any sign, and the group
around a single prohibition has none. -/
inductive Bare (field : String) : Clause Query → Prop
  | word {occur : Occur} {text : String} (small : isSmallWord text.toList = true) :
      Bare field ⟨occur, .leaf (.term field text) Single.one⟩
  | group {occur : Occur} {clauses : List (Clause Query)} (several : 2 ≤ clauses.length)
      (all : ∀ c ∈ clauses, Bare field c) : Bare field ⟨occur, .ofClauses clauses⟩
  | negation {query : Query} (prohibited : Bare field ⟨.mustNot, query⟩) :
      Bare field ⟨.should, .ofClauses [⟨.mustNot, query⟩]⟩

/-! ## Clauses that are read again -/

theorem rereadClause_leaf (occur : Occur) (l : Leaf) (boost : Single) :
    rereadClause ⟨occur, leaf l boost⟩ = ⟨occur, leaf l boost⟩ := by
  cases occur <;> rfl

theorem rereadClause_group {occur : Occur} {clauses : List (Clause Query)}
    (several : 2 ≤ clauses.length) :
    rereadClause ⟨occur, .ofClauses clauses⟩ = ⟨occur, .ofClauses (clauses.map rereadClause)⟩ := by
  rw [rereadClause, reread_ofClauses]
  unfold Clause.unwrap
  split
  · rename_i heq
    simp only [Clause.mk.injEq, ofClauses, boolean.injEq] at heq
    have hlength := congrArg List.length heq.2.1
    rw [List.length_map, List.length_singleton] at hlength
    omega
  · rfl

theorem rereadClause_prohibited (query : Query) :
    rereadClause ⟨.mustNot, query⟩ = ⟨.mustNot, query.reread⟩ := rfl

theorem rereadClause_negation (query : Query) :
    rereadClause ⟨.should, .ofClauses [⟨.mustNot, query⟩]⟩ = rereadClause ⟨.mustNot, query⟩ := by
  rw [rereadClause, reread_ofClauses, List.map_singleton, rereadClause_prohibited]
  rfl

variable {field : String}

/-- A query that takes the sign of a requirement takes every sign. -/
theorem Bare.occur {query : Query} (h : Bare field ⟨.must, query⟩) (occur : Occur) :
    Bare field ⟨occur, query⟩ := by
  cases h with
  | word small => exact .word small
  | group several all => exact .group several all

theorem rereadClause_of_bare {query : Query} (h : Bare field ⟨.must, query⟩) (occur : Occur) :
    rereadClause ⟨occur, query⟩ = ⟨occur, query.reread⟩ := by
  cases h with
  | word small => exact rereadClause_leaf ..
  | group several all => rw [rereadClause_group several, reread_ofClauses]

theorem Bare.renderable {c : Clause Query} (h : Bare field c) (named : field ≠ "")
    (config : Config) : (rereadClause c).query.Renderable config := by
  induction h with
  | @word occur text small =>
    obtain ⟨nonempty, plain⟩ := plain_of_isSmallWord small
    rw [rereadClause_leaf]
    exact .leaf (.term named nonempty plain) rfl
  | @group occur clauses several all ih =>
    rw [rereadClause_group several]
    refine .boolean (by simpa using several) ?_ rfl
    rw [List.forall_mem_map]
    exact ih
  | negation prohibited ih =>
    rw [rereadClause_negation]
    exact ih

theorem countClauses_map_le {f : Clause Query → Clause Query} {clauses : List (Clause Query)}
    (h : ∀ c ∈ clauses, (f c).query.clauseCount ≤ c.query.clauseCount) :
    countClauses (clauses.map f) ≤ countClauses clauses := by
  induction clauses with
  | nil => exact Nat.le_refl _
  | cons c rest ih =>
    rw [List.forall_mem_cons] at h
    have hrest := ih h.2
    have hfirst := h.1
    rw [List.map_cons, countClauses, countClauses]
    omega

theorem Bare.clauseCount_le {c : Clause Query} (h : Bare field c) :
    (rereadClause c).query.clauseCount ≤ c.query.clauseCount := by
  induction h with
  | word small => rw [rereadClause_leaf]
  | @group occur clauses several all ih =>
    rw [rereadClause_group several]
    exact countClauses_map_le ih
  | @negation query prohibited ih =>
    rw [rereadClause_negation]
    change _ ≤ 1 + query.clauseCount + 0
    have hquery : (rereadClause ⟨.mustNot, query⟩).query.clauseCount ≤ query.clauseCount := ih
    omega

/-- The text of several clauses, if each of them is read without such groups. -/
theorem spelled_reread {clauses : List (Clause Query)} {depth : Nat} (several : 2 ≤ clauses.length)
    (h : ∀ c ∈ clauses, Spelled (Unary .or depth) (clauseSpelling c)
      ((rereadClause c).occur.mark (rereadClause c).query.toTree)) :
    Spelled (Sequence .or (Unary .or depth)) (ofClauses clauses).spelling
      (ofClauses clauses).reread.toTree := by
  have htree : (ofClauses clauses).reread.toTree = .group (.implicit .or)
      (clauses.map fun c => (rereadClause c).occur.mark (rereadClause c).query.toTree) := by
    rw [reread_ofClauses, ofClauses, toTree, clauseTrees_eq, List.map_map]
    rfl
  rw [htree]
  exact spelled_clauses several h

/-- The text of a clause of a bare text is read as the clause without the groups around single
prohibitions. -/
theorem Bare.spelled {c : Clause Query} (h : Bare field c) (named : field ≠ "") {depth : Nat}
    (hdepth : nestingOf c ≤ depth) :
    Spelled (Unary .or depth) (clauseSpelling c)
      ((rereadClause c).occur.mark (rereadClause c).query.toTree) := by
  induction h generalizing depth with
  | @word occur text small =>
    have hrender := (Bare.word small : Bare field ⟨occur, _⟩).renderable named {}
    rw [rereadClause_leaf] at hrender ⊢
    exact spelled_clauseSpelling hrender hrender.readable hdepth
  | @group occur clauses several all ih =>
    rw [rereadClause_group several, ← reread_ofClauses]
    have hnesting : nestingOf ⟨occur, .ofClauses clauses⟩ =
        occur.sign.length + 1 + clauseNesting clauses := by
      rw [← nesting_ofClauses]
      rfl
    obtain ⟨inner, rfl⟩ : ∃ inner, depth = inner + 1 + occur.sign.length :=
      ⟨depth - 1 - occur.sign.length, by omega⟩
    have hclauses : clauseNesting clauses ≤ inner := by omega
    have hsequence := spelled_reread several fun c hc =>
      ih c hc (Nat.le_trans (nestingOf_le hc) hclauses)
    exact spelled_mark occur (spelled_parenthesized hsequence)
  | @negation query prohibited ih =>
    rw [rereadClause_negation]
    have hnesting : nestingOf ⟨.should, .ofClauses [⟨.mustNot, query⟩]⟩ =
        0 + 1 + nestingOf ⟨.mustNot, query⟩ := by
      rw [← nesting_singleton ⟨.mustNot, query⟩]
      rfl
    obtain ⟨inner, rfl⟩ : ∃ inner, depth = inner + 1 := ⟨depth - 1, by omega⟩
    have hinner : Spelled (Sequence .or (Unary .or inner)) _ _ :=
      (ih (by omega)).mono fun _ hu => .single (either_of_unary hu)
    have htext : clauseSpelling ⟨.should, .ofClauses [⟨.mustNot, query⟩]⟩ =
        '(' :: clauseSpelling ⟨.mustNot, query⟩ ++ [')'] := by
      rw [← spelling_singleton ⟨.mustNot, query⟩]
      rfl
    rw [htext]
    exact spelled_parenthesized hinner

/-- The same for the text of a query that stands alone. -/
theorem Bare.spelled_alone {query : Query} (h : Bare field ⟨.must, query⟩) (named : field ≠ "")
    {depth : Nat} (hdepth : query.nesting ≤ depth) :
    Spelled (Sequence .or (Unary .or depth)) query.spelling query.reread.toTree := by
  cases h with
  | @word _ text small =>
    have hclause := (Bare.word small : Bare field ⟨.should, _⟩).spelled named
      (Nat.zero_le depth : nestingOf ⟨.should, leaf (.term field text) Single.one⟩ ≤ depth)
    exact hclause.mono fun _ hu => .single (either_of_unary hu)
  | @group _ clauses several all =>
    rw [nesting_ofClauses] at hdepth
    refine spelled_reread several fun c hc => ?_
    exact (all c hc).spelled named (Nat.le_trans (nestingOf_le hc) hdepth)

end Query

/-! ## The queries of bare trees -/

namespace Operand

open Query (Bare rereadClause)

/-- What the operand of a bare tree is: nothing of it is boosted, and its query is bare. -/
structure OfBare (field : String) (u : Operand) : Prop where
  unboosted : u.boosts = []
  negated : u.negatedAt.getD 0 = 0
  query : ∃ q, u.query = some q ∧ Bare field ⟨.must, q⟩

/-- The text of the query is read as that query. -/
def Settled (u : Operand) : Prop := ∀ q, u.query = some q → q.reread = q

variable {field : String} {u : Operand} {q : Query}

theorem settled_iff (hq : u.query = some q) : u.Settled ↔ q.reread = q := by
  simp [Settled, hq]

theorem OfBare.bindingBoost_eq (h : u.OfBare field) : u.bindingBoost = none := by
  have hnegated := h.negated
  unfold bindingBoost
  rw [h.unboosted]
  match hat : u.negatedAt with
  | none => rfl
  | some 0 => rfl
  | some (n + 1) => simp [hat] at hnegated

theorem OfBare.place_eq (h : u.OfBare field) (hq : u.query = some q) (default : Occur)
    (disjunctive : Bool) :
    u.place default disjunctive =
      some (if u.occur = some .mustNot ∧ disjunctive = true
        then ⟨default, .ofClauses [⟨.mustNot, q⟩]⟩ else ⟨u.occur.getD default, q⟩) := by
  rw [place, hq, h.bindingBoost_eq, h.unboosted]
  rfl

theorem OfBare.toQuery_eq (h : u.OfBare field) (hq : u.query = some q) :
    u.toQuery = if u.occur = some .mustNot then .ofClauses [⟨.mustNot, q⟩] else q := by
  rw [Operand.toQuery_eq hq, h.bindingBoost_eq]
  rfl

/-- Every clause of an operand is bare. They are all read as themselves if the query of the operand
is and is not negated within a disjunction. -/
theorem OfBare.clauses (h : u.OfBare field) {junction : Junction} {splice : Bool}
    (hsplice : splice = true → u.canSplice junction = true) :
    (∀ c ∈ u.clauses junction splice, Bare field c) ∧
      ((∀ c ∈ u.clauses junction splice, rereadClause c = c) ↔
        u.Settled ∧ ¬ (junction = .or ∧ u.occur = some .mustNot)) := by
  obtain ⟨q, hq, hbare⟩ := h.query
  rw [settled_iff hq]
  rcases clauses_cases hsplice with hplace | hspliced
  · rw [hplace, h.place_eq hq, Option.toList_some, List.forall_mem_singleton,
      List.forall_mem_singleton]
    by_cases hnegated : junction = .or ∧ u.occur = some .mustNot
    · obtain ⟨rfl, hoccur⟩ := hnegated
      rw [if_pos ⟨hoccur, rfl⟩]
      refine ⟨.negation (hbare.occur .mustNot), ?_⟩
      -- The clause comes back as a prohibited one, and is optional here.
      simp [Junction.occur, Query.rereadClause_negation, Query.rereadClause_prohibited, hoccur]
    · rw [if_neg (by simpa [and_comm] using hnegated)]
      refine ⟨hbare.occur _, ?_⟩
      rw [Query.rereadClause_of_bare hbare]
      simp [hnegated]
  · obtain ⟨j, boost, -, hquery⟩ := hspliced.exists_query
    have hor : junction ≠ .or := by
      rintro rfl
      cases hspliced
    rw [hq] at hquery
    generalize u.clauses junction splice = cs at hquery
    cases hquery
    cases hbare with
    | group several all =>
      refine ⟨all, ?_⟩
      rw [← Query.reread_ofClauses_eq_iff]
      simp [hor, Query.ofClauses]

theorem settled_excluding (junction : Junction) (us : List Operand) :
    (∀ u ∈ excluding junction us, u.Settled) ↔ ∀ u ∈ us, u.Settled := by
  have hall (us : List Operand) : (∀ u ∈ us, u.Settled) ↔
      ∀ query ∈ us.map (·.query), ∀ q, query = some q → q.reread = q := by
    rw [List.forall_mem_map]
    rfl
  rw [hall, hall, map_query_excluding]

end Operand

theorem Tree.negatesAlternative_group_eq_false_iff {junction : Junction} {ts : List Tree} :
    (group junction ts).negatesAlternative = false ↔ ∀ t ∈ ts,
      t.negatesAlternative = false ∧ ¬ (junction = .or ∧ t.mark = some .mustNot) := by
  rw [negatesAlternative, negateAlternatives_eq, Bool.or_eq_false_iff, List.any_eq_false]
  by_cases hor : junction = .or
  · simp [hor, forall_and, and_comm]
  · simp [hor]

namespace Operand

/-- A group of bare operands. It is read as itself if all of them are, unless one of them is negated
within a disjunction. -/
theorem OfBare.group {field : String} (junction : Junction) {us : List Operand}
    (several : 2 ≤ us.length) (shaped : ∀ u ∈ us, u.Shaped) (h : ∀ u ∈ us, u.OfBare field) :
    (group junction us).OfBare field ∧ ((Operand.group junction us).Settled ↔
      ∀ u ∈ us, u.Settled ∧ ¬ (junction = .or ∧ u.occur = some .mustNot)) := by
  have hpresent : ∀ u ∈ us, u.query ≠ none := by
    intro u hu
    obtain ⟨q, hq, -⟩ := (h u hu).query
    simp [hq]
  obtain ⟨splice, cs, rfl, hsplice, htwo, heq⟩ :=
    exists_group_of_several junction several shaped hpresent
  have hexcluded : ∀ u ∈ excluding junction us, u.OfBare field :=
    forall_mem_excluding junction (fun _ hu => ⟨hu.unboosted, hu.negated, hu.query⟩) h
  have hclauses := fun u hu => (hexcluded u hu).clauses (hsplice u hu)
  rw [heq]
  refine ⟨⟨rfl, rfl, _, rfl, .group htwo ?_⟩, ?_⟩
  · intro c hc
    obtain ⟨u, hu, hc⟩ := List.mem_flatMap.mp hc
    exact (hclauses u hu).1 c hc
  · calc Settled _
      _ ↔ ∀ c ∈ (excluding junction us).flatMap (Operand.clauses junction splice),
          Query.rereadClause c = c := by
        rw [settled_iff rfl, Query.reread_ofClauses_eq_iff]
      _ ↔ ∀ u ∈ excluding junction us,
          u.Settled ∧ ¬ (junction = .or ∧ u.occur = some .mustNot) := by
        rw [List.forall_mem_flatMap]
        exact forall₂_congr fun u hu => (hclauses u hu).2
      _ ↔ ∀ u ∈ us, u.Settled ∧ ¬ (junction = .or ∧ u.occur = some .mustNot) := by
        by_cases hor : junction = .or
        · rw [excluding_of_ne_not (by simp [hor])]
        · simpa [hor] using settled_excluding junction us

/-- The operand of a bare tree is bare. Its text is read as itself if no alternative is negated. -/
theorem hereditary_ofBare (config : Config) :
    Hereditary .whitespace config fun field t u =>
      t.Bare → u.OfBare field ∧ (u.Settled ↔ t.negatesAlternative = false) where
  atom field own a leaf h bare := by
    cases bare with
    | @word text small =>
      obtain ⟨nonempty, plain⟩ := plain_of_isSmallWord small
      have hword := analyze_word field nonempty fun c hc => (plain c hc).1
      have hleaf : leaf = some (.term field text) := by
        simpa [Leaf.ofAtom?, hword, Except.map, Leaf.ofTerms?] using h.symm
      subst hleaf
      refine ⟨⟨rfl, rfl, _, rfl, .word small⟩, ?_⟩
      simp [Settled, Query.reread, Tree.negatesAlternative]
  scope _ _ _ _ _ bare := nomatch bare
  boost _ _ _ _ _ _ _ bare := nomatch bare
  required field t u h bare := by
    cases bare with
    | required child =>
      obtain ⟨hbare, hsettled⟩ := h child
      unfold require
      split
      · exact ⟨hbare, hsettled⟩
      · exact ⟨⟨hbare.unboosted, hbare.negated, hbare.query⟩, hsettled⟩
  prohibited field t u h bare := by
    cases bare with
    | prohibited child =>
      obtain ⟨hbare, hsettled⟩ := h child
      refine ⟨⟨hbare.unboosted, ?_, hbare.query⟩, hsettled⟩
      simp [prohibit, hbare.unboosted, hbare.negated]
  group field junction ts us h bare := by
    cases bare with
    | group several all =>
      have hpairs := (List.forall₂_and_left ts us).mpr ⟨all, h⟩
      have hmeans : ∀ t u, ofTree .whitespace config field t = .ok u →
          u.Shaped ∧ u.occur = t.mark := by
        intro t u hu
        have hmeans := (hereditary_means .whitespace config fun _ => true).ofTree t hu
        exact ⟨hmeans.shaped, hmeans.mark⟩
      have hshaped : ∀ u ∈ us, u.Shaped := by
        intro u hu
        obtain ⟨t, -, -, ht, -⟩ := hpairs.exists_of_mem_right hu
        exact (hmeans t u ht).1
      have hbare : ∀ u ∈ us, u.OfBare field := by
        intro u hu
        obtain ⟨t, -, ht, -, hchild⟩ := hpairs.exists_of_mem_right hu
        exact (hchild ht).1
      obtain ⟨hgroup, hsettled⟩ :=
        OfBare.group junction (h.length_eq ▸ several) hshaped hbare
      refine ⟨hgroup, ?_⟩
      rw [hsettled, Tree.negatesAlternative_group_eq_false_iff]
      refine (hpairs.forall_mem_iff ?_).symm
      rintro t u ⟨ht, hu, hchild⟩
      rw [(hchild ht).2, (hmeans t u hu).2]

theorem OfBare.reread_toQuery_eq_iff {field : String} {u : Operand} (h : u.OfBare field) :
    u.toQuery.reread = u.toQuery ↔ u.Settled := by
  obtain ⟨q, hq, -⟩ := h.query
  rw [settled_iff hq, h.toQuery_eq hq]
  split
  · rw [Query.reread_ofClauses_eq_iff, List.forall_mem_singleton, Query.rereadClause_prohibited]
    simp
  · rfl

end Operand

namespace Parser

/-- A text that is read as a canonical text with a sign before it. -/
theorem parse_of_spelled {p : Parser} {text : String} {q : Query} (occur : Occur) (field : String)
    (analyzer : p.analyzer = .whitespace) (operator : p.config.defaultOperator = .or)
    (renderable : q.Renderable p.config)
    (spelled : Spelled (Sequence .or (Unary .or p.config.maxDepth.toNat)) text.toList
      (occur.mark q.toTree))
    (clauses : (if occur = .mustNot then .ofClauses [⟨.mustNot, q⟩] else q).clauseCount ≤
      p.config.maxClauseCount.toNat) :
    p.parse text field = .ok (if occur = .mustNot then .ofClauses [⟨.mustNot, q⟩] else q) := by
  obtain ⟨ks, hspells, hread, -⟩ := spelled
  refine parse_eq_ok_iff.mpr ⟨occur.mark q.toTree, occur.apply q.toOperand, ⟨ks, hspells, ?_⟩, ?_,
    Query.toQuery_apply (Query.isUnsigned_boost renderable) occur, clauses⟩
  · rwa [operator]
  · rw [analyzer]
    exact Query.ofTree_mark (renderable.ofTree field) occur

/-- The canonical text of the query of a bare operand. -/
theorem parse_render_toQuery {p : Parser} {field : String} {u : Operand} (h : u.OfBare field)
    (named : field ≠ "") (analyzer : p.analyzer = .whitespace)
    (operator : p.config.defaultOperator = .or)
    (clauses : u.toQuery.clauseCount ≤ p.config.maxClauseCount.toNat)
    (depth : u.toQuery.nesting ≤ p.config.maxDepth.toNat) (other : String) :
    p.parse u.toQuery.render other = .ok u.toQuery.reread := by
  obtain ⟨q, hq, hbare⟩ := h.query
  have hclause := hbare.occur .mustNot
  have hrender : q.reread.Renderable p.config := hclause.renderable named p.config
  have hcount : q.reread.clauseCount ≤ q.clauseCount := hclause.clauseCount_le
  rw [h.toQuery_eq hq] at clauses depth ⊢
  by_cases hoccur : u.occur = some .mustNot
  · rw [if_pos hoccur] at clauses depth ⊢
    rw [Query.nesting_singleton] at depth
    have hspelled := hclause.spelled named depth
    rw [Query.reread_ofClauses, List.map_singleton, Query.rereadClause_prohibited]
    refine parse_of_spelled .mustNot other analyzer operator hrender ?_ ?_
    · rw [Query.render, String.toList_ofList, Query.spelling_singleton]
      exact hspelled.mono fun _ hu => .single (Query.either_of_unary hu)
    · have hcounts : ∀ q : Query, (Query.ofClauses [⟨.mustNot, q⟩]).clauseCount =
          1 + q.clauseCount + 0 := fun _ => rfl
      rw [hcounts] at clauses
      rw [if_pos rfl, hcounts]
      omega
  · rw [if_neg hoccur] at clauses depth ⊢
    refine parse_of_spelled .should other analyzer operator hrender ?_ ?_
    · rw [Query.render, String.toList_ofList]
      exact hbare.spelled_alone named depth
    · exact Nat.le_trans hcount clauses

/-- The canonical text of the query of a bare text is read as that query without the groups around
single prohibitions, and so as the query itself exactly if no operand of a disjunction is negated in
the text. -/
theorem parse_render_of_isBare {p : Parser} {text field : String} {q : Query}
    (analyzer : p.analyzer = .whitespace) (operator : p.config.defaultOperator = .or)
    (bare : isBare text = true) (named : field ≠ "") (parsed : p.parse text field = .ok q)
    (depth : q.nesting ≤ p.config.maxDepth.toNat) (other : String) :
    p.parse q.render other = .ok q.reread ∧
      (p.parse q.render other = .ok q ↔
        ∃ t, p.tree text field = .ok t ∧ t.negatesAlternative = false) := by
  obtain ⟨t, u, hread, hu, rfl, hcount⟩ := parse_eq_ok_iff.mp parsed
  have htree : p.tree text field = .ok (.scope field t) := tree_eq_ok_iff.mpr ⟨t, rfl, hread⟩
  rw [analyzer] at hu
  obtain ⟨hbare, hsettled⟩ :=
    (Operand.hereditary_ofBare p.config).ofTree t hu (hread.bare bare)
  have hreparse := parse_render_toQuery hbare named analyzer operator hcount depth other
  refine ⟨hreparse, ?_⟩
  rw [hreparse, Except.ok.injEq, hbare.reread_toQuery_eq_iff, hsettled]
  constructor
  · intro hnone
    exact ⟨.scope field t, htree, hnone⟩
  · rintro ⟨t', htree', hnone⟩
    rw [htree] at htree'
    cases htree'
    exact hnone

/-- A negated alternative comes back as a prohibition, and other negations as they were. -/
theorem parse_render_of_isBare_alternatives :
    isBare "a OR -b" = true ∧
      (∃ q, parse ⟨.whitespace, {}⟩ "a OR -b" "f" = .ok q ∧ q.render = "f:a (-f:b)" ∧
        parse ⟨.whitespace, {}⟩ q.render "g" = .ok q.reread ∧ q.reread.render = "f:a -f:b" ∧
        parse ⟨.whitespace, {}⟩ q.render "g" ≠ .ok q) ∧
      isBare "(a OR +b) AND NOT c" = true ∧
      ∃ q, parse ⟨.whitespace, {}⟩ "(a OR +b) AND NOT c" "f" = .ok q ∧
        q.render = "+(f:a +f:b) -f:c" ∧ parse ⟨.whitespace, {}⟩ q.render "g" = .ok q := by
  have hbare : isBare "a OR -b" = true := by decide +kernel
  have hbare' : isBare "(a OR +b) AND NOT c" = true := by decide +kernel
  refine ⟨hbare, ?_, hbare', ?_⟩
  · obtain ⟨q, hparse, hshown⟩ : ∃ q, parse ⟨.whitespace, {}⟩ "a OR -b" "f" = .ok q ∧
        (q.render == "f:a (-f:b)" && q.reread.render == "f:a -f:b" &&
          decide (q.nesting ≤ 64)) = true := Except.exists_eq_ok_of_any (by decide +kernel)
    simp only [Bool.and_eq_true, beq_iff_eq, decide_eq_true_eq] at hshown
    obtain ⟨⟨hrender, hreread⟩, hdepth⟩ := hshown
    obtain ⟨hagain, -⟩ :=
      parse_render_of_isBare rfl rfl hbare (by decide : "f" ≠ "") hparse hdepth "g"
    refine ⟨q, hparse, hrender, hagain, hreread, fun hsame => ?_⟩
    rw [hagain, Except.ok.injEq] at hsame
    rw [hsame, hrender] at hreread
    exact absurd hreread (by decide)
  · obtain ⟨t, htree, hnone⟩ :
        ∃ t, tree ⟨.whitespace, {}⟩ "(a OR +b) AND NOT c" "f" = .ok t ∧
          (!t.negatesAlternative) = true := Except.exists_eq_ok_of_any (by decide +kernel)
    obtain ⟨q, hparse, hshown⟩ :
        ∃ q, parse ⟨.whitespace, {}⟩ "(a OR +b) AND NOT c" "f" = .ok q ∧
          (q.render == "+(f:a +f:b) -f:c" && decide (q.nesting ≤ 64)) = true :=
      Except.exists_eq_ok_of_any (by decide +kernel)
    rw [Bool.and_eq_true, beq_iff_eq, decide_eq_true_eq] at hshown
    obtain ⟨hrender, hdepth⟩ := hshown
    obtain ⟨-, hiff⟩ :=
      parse_render_of_isBare rfl rfl hbare' (by decide : "f" ≠ "") hparse hdepth "g"
    exact ⟨q, hparse, hrender, hiff.mpr ⟨t, htree, by simpa using hnone⟩⟩

end Parser

end SearchQuery
