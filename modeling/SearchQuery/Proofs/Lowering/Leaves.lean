import Mathlib.Data.List.ReduceOption
import SearchQuery.Proofs.Lowering.Operands

/-!
The leaves of queries and the atoms of trees, both from left to right. What an atom becomes in its
field is a relation of its own. Main statement: the leaves of the query of a tree are what its atoms
become, one by one and in order.
-/

namespace SearchQuery

open Number (Single)

/-! ## Atoms -/

namespace Tree

mutual

/-- The atoms of a tree, each with its field: its own, else that of the nearest scope around it, else
`field`. -/
def atoms (field : String) : Tree → List (String × Atom)
  | atom own a => [(own.getD field, a)]
  | scope inner child => atoms inner child
  | group _ children => atomsOf field children
  | boost _ child | required child | prohibited child => atoms field child

/-- The atoms of several trees. -/
def atomsOf (field : String) : List Tree → List (String × Atom)
  | [] => []
  | tree :: rest => atoms field tree ++ atomsOf field rest

end

end Tree

/-- What analyzed terms become: nothing if there are none, a term if there is one, and otherwise a
phrase. -/
inductive Leaf.OfTerms (field : String) (slop : UInt32) : List String → Option Leaf → Prop
  | dropped : OfTerms field slop [] none
  | term {text : String} : OfTerms field slop [text] (some (.term field text))
  | phrase {terms : List String} (several : 2 ≤ terms.length) :
      OfTerms field slop terms (some (.phrase field terms slop))

/-- What an atom becomes in a field. Terms and phrases are analyzed, and a phrase without a slop has
that of the settings. The pattern `*` in the field `*` matches everything. -/
inductive Atom.Becomes (analyzer : Analyzer) (config : Config) (field : String) :
    Atom → Option Leaf → Prop
  | term {text : String} {terms : List String} {leaf : Option Leaf}
      (analyzed : analyzer.analyze field text = .ok terms) (made : Leaf.OfTerms field 0 terms leaf) :
      Becomes analyzer config field (.term text) leaf
  | phrase {text : String} {slop : Option UInt32} {terms : List String} {leaf : Option Leaf}
      (analyzed : analyzer.analyze field text = .ok terms)
      (made : Leaf.OfTerms field (slop.getD config.phraseSlop) terms leaf) :
      Becomes analyzer config field (.phrase text slop) leaf
  | matchAll (everywhere : field = "*") :
      Becomes analyzer config field (.wildcard "*") (some .matchAll)
  | wildcard {pattern : String} (single : ¬ (field = "*" ∧ pattern = "*")) :
      Becomes analyzer config field (.wildcard pattern)
        (some (.wildcard field (config.expand pattern)))
  | fuzzy {text : String} {similarity : Option Single} :
      Becomes analyzer config field (.fuzzy text similarity)
        (some (.fuzzy field (config.expand text) (similarity.getD config.fuzzyMinSimilarity)
          config.fuzzySharedLength))
  | range {lower upper : Option String} {includeLower includeUpper : Bool} :
      Becomes analyzer config field (.range lower upper includeLower includeUpper)
        (some (.range field (lower.map config.expand) (upper.map config.expand) includeLower
          includeUpper))

theorem Leaf.ofTerms?_eq_iff {field : String} {slop : UInt32} {terms : List String}
    {leaf : Option Leaf} : ofTerms? field slop terms = leaf ↔ OfTerms field slop terms leaf := by
  constructor
  · rintro rfl
    match terms with
    | [] => exact .dropped
    | [_] => exact .term
    | _ :: _ :: _ => exact .phrase (by simp)
  · intro h
    cases h with
    | dropped => rfl
    | term => rfl
    | phrase several =>
      match terms, several with
      | _ :: _ :: _, _ => rfl

theorem Leaf.ofAtom?_eq_ok_iff {analyzer : Analyzer} {config : Config} {field : String} {a : Atom}
    {leaf : Option Leaf} :
    ofAtom? analyzer config field a = .ok leaf ↔ a.Becomes analyzer config field leaf := by
  constructor
  · intro h
    cases a with
    | term text =>
      obtain ⟨terms, hterms, hleaf⟩ := Except.map_eq_ok_iff.mp h
      exact .term hterms (ofTerms?_eq_iff.mp hleaf)
    | phrase text slop =>
      obtain ⟨terms, hterms, hleaf⟩ := Except.map_eq_ok_iff.mp h
      exact .phrase hterms (ofTerms?_eq_iff.mp hleaf)
    | wildcard pattern =>
      cases h
      split
      · rename_i everywhere
        obtain ⟨hfield, rfl⟩ := everywhere
        exact .matchAll hfield
      · exact .wildcard ‹_›
    | fuzzy text similarity =>
      cases h
      exact .fuzzy
    | range lower upper includeLower includeUpper =>
      cases h
      exact .range
  · intro h
    cases h with
    | term analyzed made => exact Except.map_eq_ok_iff.mpr ⟨_, analyzed, ofTerms?_eq_iff.mpr made⟩
    | phrase analyzed made =>
      exact Except.map_eq_ok_iff.mpr ⟨_, analyzed, ofTerms?_eq_iff.mpr made⟩
    | matchAll everywhere => simp [ofAtom?, everywhere]
    | wildcard single => simp [ofAtom?, single]
    | fuzzy => rfl
    | range => rfl

/-- An atom becomes one thing. -/
theorem Atom.Becomes.unique {analyzer : Analyzer} {config : Config} {field : String} {a : Atom}
    {leaf leaf' : Option Leaf} (h : a.Becomes analyzer config field leaf)
    (h' : a.Becomes analyzer config field leaf') : leaf = leaf' := by
  have hok := Leaf.ofAtom?_eq_ok_iff.mpr h
  rw [Leaf.ofAtom?_eq_ok_iff.mpr h'] at hok
  exact (Except.ok.inj hok).symm

/-! ## Queries -/

namespace Query

mutual

/-- The leaves of a query, without their boosts. -/
def leaves : Query → List Leaf
  | leaf l _ => [l]
  | boolean clauses _ => clauseLeaves clauses

/-- The leaves of clauses. -/
def clauseLeaves : List (Clause Query) → List Leaf
  | [] => []
  | ⟨_, query⟩ :: rest => leaves query ++ clauseLeaves rest

end

theorem clauseLeaves_eq (cs : List (Clause Query)) :
    clauseLeaves cs = cs.flatMap (·.query.leaves) := by
  induction cs with
  | nil => rfl
  | cons c cs ih => rw [clauseLeaves, ih, List.flatMap_cons]

@[simp] theorem leaves_boolean (cs : List (Clause Query)) (b : Single) :
    (boolean cs b).leaves = cs.flatMap (·.query.leaves) := by
  rw [leaves, clauseLeaves_eq]

@[simp] theorem leaves_ofClauses (cs : List (Clause Query)) :
    (ofClauses cs).leaves = cs.flatMap (·.query.leaves) :=
  leaves_boolean cs Single.one

@[simp] theorem leaves_scale (q : Query) (b : Option Single) : (q.scale b).leaves = q.leaves := by
  cases b with
  | none => rfl
  | some b => cases q <;> simp only [scale, withBoost, leaves]

end Query

/-! ## Operands -/

namespace Operand

/-- The leaves of the query of an operand, if it has one. -/
def leaves (u : Operand) : List Leaf := u.query.elim [] Query.leaves

theorem leaves_negation (q : Query) (boosts : List Single) :
    (negation q boosts).leaves = q.leaves := by
  match boosts with
  | [] => simp [negation]
  | [_] => simp [negation]
  | _ :: _ :: _ => simp [negation]

/-- However an operand is placed, its clause has its leaves. -/
theorem leaves_place (u : Operand) (default : Occur) (disjunctive : Bool) :
    (u.place default disjunctive).toList.flatMap (·.query.leaves) = u.leaves := by
  rw [place, leaves]
  cases u.query with
  | none => rfl
  | some q =>
    by_cases hnot : u.occur = some .mustNot ∧ disjunctive
    · simp [hnot, leaves_negation]
    · simp [hnot]

theorem leaves_clauses {junction : Junction} {splice : Bool} {u : Operand}
    (h : splice = true → u.canSplice junction = true) :
    (u.clauses junction splice).flatMap (·.query.leaves) = u.leaves := by
  rcases clauses_cases h with hplace | hspliced
  · rw [hplace, leaves_place]
  · obtain ⟨j, boost, -, hquery⟩ := hspliced.exists_query
    rw [leaves, hquery, Option.elim_some, Query.leaves_boolean]

theorem leaves_ofClauses (junction : Junction) (cs : List (Clause Query)) :
    (ofClauses junction cs).leaves = cs.flatMap (·.query.leaves) := by
  match cs with
  | [] => rfl
  | [⟨occur, query⟩] =>
    rw [ofClauses]
    split <;> simp [leaves, ofQuery]
  | _ :: _ :: _ => exact Query.leaves_ofClauses _

theorem leaves_excluding (junction : Junction) (us : List Operand) :
    (excluding junction us).flatMap leaves = us.flatMap leaves := by
  have hqueries := congrArg (List.flatMap fun q : Option Query => q.elim [] Query.leaves)
    (map_query_excluding junction us)
  rw [List.flatMap_map, List.flatMap_map] at hqueries
  exact hqueries

/-- Whether its operands are spliced, excluded or negated, a group has their leaves in order. -/
theorem leaves_group (junction : Junction) (us : List Operand) :
    (group junction us).leaves = us.flatMap leaves := by
  obtain ⟨splice, heq, hsplice⟩ := exists_group_eq junction us
  rw [heq, leaves_ofClauses, List.flatMap_assoc, ← leaves_excluding junction us]
  exact List.flatMap_congr fun u hu => leaves_clauses (hsplice u hu)

theorem leaves_toQuery (u : Operand) : u.toQuery.leaves = u.leaves := by
  rw [← leaves_place u .must false]
  unfold toQuery
  cases u.place .must false with
  | none => rfl
  | some c =>
    dsimp only
    split <;> simp

/-! ## Trees -/

/-- The leaves of an operand are what the atoms of its tree become. -/
def Collects (analyzer : Analyzer) (config : Config) (field : String) (t : Tree) (u : Operand) :
    Prop :=
  ∃ results, List.Forall₂ (fun x leaf => x.2.Becomes analyzer config x.1 leaf) (t.atoms field)
    results ∧ u.leaves = results.reduceOption

theorem exists_results_atomsOf {analyzer : Analyzer} {config : Config} {field : String}
    {ts : List Tree} {us : List Operand}
    (h : List.Forall₂ (Collects analyzer config field) ts us) :
    ∃ results, List.Forall₂ (fun x leaf => x.2.Becomes analyzer config x.1 leaf)
      (Tree.atomsOf field ts) results ∧ us.flatMap leaves = results.reduceOption := by
  induction h with
  | nil => exact ⟨[], .nil, rfl⟩
  | cons hfirst _ ih =>
    obtain ⟨first, hatoms, hleaves⟩ := hfirst
    obtain ⟨others, hatoms', hleaves'⟩ := ih
    refine ⟨first ++ others, List.rel_append hatoms hatoms', ?_⟩
    rw [List.flatMap_cons, hleaves, hleaves', List.reduceOption_append]

theorem hereditary_collects (analyzer : Analyzer) (config : Config) :
    Hereditary analyzer config (Collects analyzer config) where
  atom field own a leaf h := by
    refine ⟨[leaf], .cons (Leaf.ofAtom?_eq_ok_iff.mp h) .nil, ?_⟩
    cases leaf <;> rfl
  scope _ _ _ _ h := h
  boost _ _ _ u _ h hu := by
    rw [boost] at hu
    split at hu
    · cases hu
      exact h
    · cases hu
  required _ _ u h := by
    unfold require
    split <;> exact h
  prohibited _ _ _ h := h
  group field junction ts us h := by
    obtain ⟨results, hatoms, hleaves⟩ := exists_results_atomsOf (h.imp fun _ _ => And.right)
    exact ⟨results, hatoms, (leaves_group junction us).trans hleaves⟩

end Operand

/-- The leaves of the query of a tree are what the atoms of the tree become, in order: none is lost,
none is repeated and none changes its place. -/
theorem Query.leaves_ofTree {analyzer : Analyzer} {config : Config} {field : String} {t : Tree}
    {q : Query} (lowered : Query.ofTree analyzer config field t = .ok q) :
    ∃ results, List.Forall₂ (fun x leaf => x.2.Becomes analyzer config x.1 leaf) (t.atoms field)
      results ∧ q.leaves = results.reduceOption := by
  obtain ⟨u, hu, rfl, -⟩ := Query.ofTree_eq_ok_iff.mp lowered
  rw [Operand.leaves_toQuery]
  exact (Operand.hereditary_collects analyzer config).ofTree t hu

/-- Side by side stand an empty phrase, which is dropped, a disjunction with a negation, which is
spliced, and a phrase under a scope. -/
def Tree.assorted : Tree :=
  .group (.implicit .or) [.atom none (.phrase "" none),
    .group .or [.atom none (.term "a"), .prohibited (.atom (some "g") (.wildcard "B*"))],
    .scope "h" (.atom none (.phrase "x" (some 3)))]

/-- The query of that tree. -/
def Query.assorted : Query :=
  .ofClauses [⟨.should, .leaf (.term "f" "a") Single.one⟩,
    ⟨.should, .ofClauses [⟨.mustNot, .leaf (.wildcard "g" "b*") Single.one⟩]⟩,
    ⟨.should, .leaf (.term "h" "x") Single.one⟩]

theorem Query.leaves_ofTree_assorted :
    Query.ofTree .keyword {} "f" Tree.assorted = .ok Query.assorted ∧
      Query.assorted.leaves = [.term "f" "a", .wildcard "g" "b*", .term "h" "x"] ∧
      ∃ results, List.Forall₂ (fun x leaf => x.2.Becomes .keyword {} x.1 leaf)
        (Tree.assorted.atoms "f") results ∧ Query.assorted.leaves = results.reduceOption := by
  have hlowered : Query.ofTree .keyword {} "f" Tree.assorted = .ok Query.assorted := rfl
  exact ⟨hlowered, rfl, Query.leaves_ofTree hlowered⟩

end SearchQuery
