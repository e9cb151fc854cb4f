import SearchQuery.Proofs.Lowering.Leaves
import SearchQuery.Proofs.Parsing
import SearchQuery.Query.Render

/-!
The groups of parsed queries. An operand of which nothing is left is dropped, a group that comes down
to one clause gives way to it unless it is prohibited, and what is negated alone is a group of one
prohibited clause. Main statement: every boolean query in a parsed one has several clauses or is a
single prohibition, unless analysis left nothing at all.
-/

namespace SearchQuery

open Number (Single)

namespace Query

/-- Every boolean query within has several clauses or is a single prohibition. -/
inductive Grouped : Query → Prop
  | leaf {l : Leaf} {boost : Single} : Grouped (.leaf l boost)
  | several {clauses : List (Clause Query)} {boost : Single} (several : 2 ≤ clauses.length)
      (all : ∀ c ∈ clauses, Grouped c.query) : Grouped (.boolean clauses boost)
  | prohibition {q : Query} {boost : Single} (prohibited : Grouped q) :
      Grouped (.boolean [⟨.mustNot, q⟩] boost)

theorem Grouped.withBoost {q : Query} (h : q.Grouped) (b : Single) : (q.withBoost b).Grouped := by
  cases h with
  | leaf => exact .leaf
  | several several all => exact .several several all
  | prohibition prohibited => exact .prohibition prohibited

theorem Grouped.scale {q : Query} (h : q.Grouped) (b : Option Single) : (q.scale b).Grouped := by
  cases b with
  | none => exact h
  | some b => exact h.withBoost _

/-- The clauses of a query with no group out of shape have none either. -/
theorem Grouped.clause {cs : List (Clause Query)} {b : Single} (h : (boolean cs b).Grouped)
    {c : Clause Query} (hc : c ∈ cs) : c.query.Grouped := by
  cases h with
  | several _ all => exact all c hc
  | prohibition prohibited =>
    obtain rfl := List.mem_singleton.mp hc
    exact prohibited

/-- A query in which every group has clauses has leaves. -/
theorem Grouped.leaves_ne_nil {q : Query} (h : q.Grouped) : q.leaves ≠ [] := by
  induction h with
  | leaf => simp [leaves]
  | @several cs boost several _ ih =>
    obtain ⟨c, rest, rfl⟩ : ∃ c rest, cs = c :: rest :=
      List.exists_cons_of_length_pos (by omega)
    have hfirst := ih c List.mem_cons_self
    simp [hfirst]
  | prohibition _ ih => simpa using ih

end Query

namespace Operand

theorem grouped_negation {q : Query} (h : q.Grouped) (boosts : List Single) :
    (negation q boosts).Grouped := by
  match boosts with
  | [] => exact .prohibition h
  | [_] => exact .prohibition h
  | _ :: _ :: _ => exact .prohibition (h.scale _)

theorem grouped_place {u : Operand} (h : ∀ q, u.query = some q → q.Grouped) {default : Occur}
    {disjunctive : Bool} {c : Clause Query} (hc : u.place default disjunctive = some c) :
    c.query.Grouped := by
  obtain ⟨q, hq, rfl⟩ := Option.map_eq_some_iff.mp hc
  split
  · exact grouped_negation (h q hq) _
  · exact (h q hq).scale _

theorem grouped_clauses {u : Operand} (h : ∀ q, u.query = some q → q.Grouped) {junction : Junction}
    {splice : Bool} (hsplice : splice = true → u.canSplice junction = true) {c : Clause Query}
    (hc : c ∈ u.clauses junction splice) : c.query.Grouped := by
  rcases clauses_cases hsplice with hplace | hspliced
  · rw [hplace, Option.mem_toList] at hc
    exact grouped_place h hc
  · obtain ⟨j, boost, -, hquery⟩ := hspliced.exists_query
    exact (h _ hquery).clause hc

/-- One clause stands for itself unless it is prohibited, so that the clauses of an operand are never
a group out of shape. -/
theorem grouped_ofClauses {junction : Junction} {cs : List (Clause Query)}
    (h : ∀ c ∈ cs, c.query.Grouped) {q : Query} (hq : (ofClauses junction cs).query = some q) :
    q.Grouped := by
  match cs with
  | [] => cases hq
  | [⟨occur, query⟩] =>
    have hquery : query.Grouped := h ⟨occur, query⟩ List.mem_cons_self
    rw [ofClauses] at hq
    split at hq
    · rename_i hoccur
      cases hq
      rw [hoccur]
      exact .prohibition hquery
    · cases hq
      exact hquery
  | c :: c' :: rest =>
    cases hq
    exact .several (by simp) h

theorem grouped_group {junction : Junction} {us : List Operand}
    (h : ∀ u ∈ us, ∀ q, u.query = some q → q.Grouped) {q : Query}
    (hq : (group junction us).query = some q) : q.Grouped := by
  obtain ⟨splice, heq, hsplice⟩ := exists_group_eq junction us
  rw [heq] at hq
  refine grouped_ofClauses (fun c hc => ?_) hq
  obtain ⟨u, hu, hc⟩ := List.mem_flatMap.mp hc
  obtain ⟨w, hw, hquery⟩ := exists_mem_of_mem_excluding hu
  exact grouped_clauses (hquery ▸ h w hw) (hsplice u hu) hc

theorem hereditary_grouped (analyzer : Analyzer) (config : Config) :
    Hereditary analyzer config fun _ _ u => ∀ q, u.query = some q → q.Grouped where
  atom _ _ _ leaf _ q hq := by
    obtain ⟨l, -, rfl⟩ := Option.map_eq_some_iff.mp hq
    exact .leaf
  scope _ _ _ _ h := h
  boost _ _ _ u _ h hu := by
    rw [boost] at hu
    split at hu
    · cases hu
      exact h
    · cases hu
  required _ _ u h := by
    unfold require
    split <;> exact h
  prohibited _ _ _ h := h
  group field junction ts us h q hq := by
    refine grouped_group (fun u hu => ?_) hq
    obtain ⟨t, -, -, hgrouped⟩ := h.exists_of_mem_right hu
    exact hgrouped

/-- An operand that stands alone is a query with no group out of shape, unless it has no query. -/
theorem toQuery_cases {u : Operand} (h : ∀ q, u.query = some q → q.Grouped) :
    u.toQuery.Grouped ∨ u.toQuery = .empty := by
  unfold toQuery
  cases hplace : u.place .must false with
  | none => exact .inr rfl
  | some c =>
    left
    have hquery := grouped_place h hplace
    obtain ⟨occur, query⟩ := c
    dsimp only at hquery ⊢
    split
    · rename_i hoccur
      rw [hoccur]
      exact .prohibition hquery
    · exact hquery

end Operand

/-- Atoms become no leaf at all exactly if each of them is dropped. -/
theorem Atom.reduceOption_eq_nil_iff {analyzer : Analyzer} {config : Config}
    {xs : List (String × Atom)} {results : List (Option Leaf)}
    (h : List.Forall₂ (fun x leaf => x.2.Becomes analyzer config x.1 leaf) xs results) :
    results.reduceOption = [] ↔ ∀ x ∈ xs, x.2.Becomes analyzer config x.1 none := by
  induction h with
  | nil => simp
  | @cons x result xs results hbecomes _ ih =>
    rw [List.forall_mem_cons]
    cases result with
    | none => rw [List.reduceOption_cons_of_none, ih, and_iff_right hbecomes]
    | some l =>
      rw [List.reduceOption_cons_of_some]
      refine iff_of_false (by simp) ?_
      rintro ⟨hnone, -⟩
      cases hbecomes.unique hnone

/-- Every boolean query in a parsed one has several clauses or is a single prohibition. The one
exception is the empty query, which a text has exactly if analysis drops every atom of it. -/
theorem Parser.grouped_parse {p : Parser} {text field : String} {q : Query}
    (parsed : p.parse text field = .ok q) :
    ∃ t, p.tree text field = .ok t ∧ (q.Grouped ∨ q = .empty) ∧
      (q = .empty ↔ ∀ x ∈ t.atoms field, x.2.Becomes p.analyzer p.config x.1 none) := by
  obtain ⟨t, u, hread, hu, rfl, -⟩ := parse_eq_ok_iff.mp parsed
  have hgrouped := (Operand.hereditary_grouped p.analyzer p.config).ofTree t hu
  obtain ⟨results, hatoms, hleaves⟩ :=
    (Operand.hereditary_collects p.analyzer p.config).ofTree t hu
  have hcases := Operand.toQuery_cases hgrouped
  have hempty : u.toQuery = .empty ↔ u.toQuery.leaves = [] := by
    constructor
    · intro h
      rw [h]
      rfl
    · intro h
      rcases hcases with hshape | hnone
      · exact absurd h hshape.leaves_ne_nil
      · exact hnone
  refine ⟨.scope field t, tree_eq_ok_iff.mpr ⟨t, rfl, hread⟩, hcases, ?_⟩
  rw [hempty, Operand.leaves_toQuery, hleaves, Tree.atoms]
  exact Atom.reduceOption_eq_nil_iff hatoms

theorem Parser.grouped_parse_dropping :
    (∃ q, Parser.parse ⟨.keyword, {}⟩ "\"\" OR -a" "f" = .ok q ∧ q.render = "-f:a" ∧ q.Grouped) ∧
      ∃ q, Parser.parse ⟨.keyword, {}⟩ "\"\" (-\"\")^2" "f" = .ok q ∧ q = .empty ∧
        ∃ t, Parser.tree ⟨.keyword, {}⟩ "\"\" (-\"\")^2" "f" = .ok t ∧
          ∀ x ∈ t.atoms "f", x.2.Becomes .keyword {} x.1 none := by
  constructor
  · obtain ⟨q, hparse, hrender⟩ : ∃ q, Parser.parse ⟨.keyword, {}⟩ "\"\" OR -a" "f" = .ok q ∧
        (q.render == "-f:a") = true := Except.exists_eq_ok_of_any (by decide +kernel)
    obtain ⟨t, -, hgrouped | rfl, -⟩ := Parser.grouped_parse hparse
    · exact ⟨q, hparse, eq_of_beq hrender, hgrouped⟩
    · cases hrender
  · obtain ⟨q, hparse, hleaves⟩ : ∃ q, Parser.parse ⟨.keyword, {}⟩ "\"\" (-\"\")^2" "f" = .ok q ∧
        (q.leaves == []) = true := Except.exists_eq_ok_of_any (by decide +kernel)
    obtain ⟨t, htree, hgrouped | rfl, hiff⟩ := Parser.grouped_parse hparse
    · exact absurd (eq_of_beq hleaves) hgrouped.leaves_ne_nil
    · exact ⟨_, hparse, rfl, t, htree, hiff.mp rfl⟩

end SearchQuery
