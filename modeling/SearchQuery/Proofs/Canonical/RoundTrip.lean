import SearchQuery.Proofs.Analysis
import SearchQuery.Proofs.Canonical.Reading
import SearchQuery.Proofs.Parsing

/-!
Canonical texts are read back. Analysis at white space keeps the words of the vocabulary, the
boosts of the tree come back to their queries, and no group of the tree is spliced into the one
around it, because its operands stand side by side. Main statement: parsing the canonical text of an
expressible query gives that query.
-/

namespace SearchQuery

open Grammar (Sequence Unary)
open Lexer (isWild)
open Number (Single)
open Text (isBlank)

/-! ## Operands -/

open Operand

theorem Leaf.ofTerms?_of_several (field : String) (slop : UInt32) {terms : List String}
    (several : 2 ≤ terms.length) : ofTerms? field slop terms = some (.phrase field terms slop) := by
  unfold ofTerms?
  split
  · exact absurd several (by simp)
  · exact absurd several (by simp)
  · rfl

/-- The tree of a leaf makes that leaf. -/
theorem Leaf.Renderable.ofTree {config : Config} {l : Leaf} (h : l.Renderable config)
    (field : String) :
    Operand.ofTree .whitespace config field l.toTree = .ok (.ofQuery (.leaf l Single.one)) := by
  cases h with
  | @term name text field_ne text_ne word =>
    have hword := analyze_word name text_ne fun c hc => (word c hc).1
    simp [Leaf.toTree, Operand.ofTree, Leaf.ofAtom?, hword, Except.map, Leaf.ofTerms?, ofQuery]
  | @phrase name terms slop field_ne several words small silent =>
    have hterms := fun slop => Leaf.ofTerms?_of_several name slop several
    have hslop : (if slop = 0 then none else some slop).getD config.phraseSlop = slop := by
      by_cases hzero : slop = 0
      · simp [hzero, silent hzero]
      · simp [hzero]
    simp [Leaf.toTree, Operand.ofTree, Leaf.ofAtom?, analyze_phraseText _ words, Except.map, hterms,
      hslop, ofQuery]
  | fuzzy field_ne text_ne word unsigned interval kept =>
    have hkept : config.expand _ = _ := kept
    simp [Leaf.toTree, Operand.ofTree, Leaf.ofAtom?, Except.map, hkept, ofQuery]
  | wildcard field_ne valid single kept =>
    have hkept : config.expand _ = _ := kept
    simp only [Leaf.toTree, Operand.ofTree, Leaf.ofAtom?, Option.getD_some, if_neg single, hkept,
      Except.map]
    rfl
  | @range name lower upper includeLower includeUpper field_ne bounds =>
    have hlower : lower.map config.expand = lower := by
      cases lower with
      | none => rfl
      | some text => exact congrArg some (bounds text (.inl rfl)).2
    have hupper : upper.map config.expand = upper := by
      cases upper with
      | none => rfl
      | some text => exact congrArg some (bounds text (.inr rfl)).2
    simp [Leaf.toTree, Operand.ofTree, Leaf.ofAtom?, Except.map, hlower, hupper, ofQuery]
  | matchAll => rfl

/-- Puts the sign of a clause before an operand. -/
def Occur.apply : Occur → Operand → Operand
  | must, u => u.require
  | should, u => u
  | mustNot, u => u.prohibit

namespace Query

/-- The operand of the tree of a canonical text: the boost is still around the query. -/
def toOperand (q : Query) : Operand where
  query := some (q.withBoost Single.one)
  boosts := if q.boost.numEq Single.one then [] else [q.boost]
  junction := if q.isBoolean then some (.implicit .or) else none

theorem isUnsigned_boost {config : Config} {q : Query} (h : q.Renderable config) :
    q.boost.isUnsigned = true := by
  cases h with
  | leaf _ unsigned => exact unsigned
  | boolean _ _ unsigned => exact unsigned

theorem withBoost_self (q : Query) : q.withBoost q.boost = q := by
  cases q <;> rfl

theorem boost_withBoost (q : Query) (b : Single) : (q.withBoost b).boost = b := by
  cases q <;> rfl

theorem withBoost_withBoost (q : Query) (b b' : Single) :
    (q.withBoost b).withBoost b' = q.withBoost b' := by
  cases q <;> rfl

/-- Whatever its sign, the operand gives its boost back to its query. -/
theorem scale_bindingBoost {q : Query} (h : q.boost.isUnsigned = true) (occur : Occur) :
    (q.withBoost Single.one).scale (occur.apply q.toOperand).bindingBoost = q := by
  have hfinite := Single.isFinite_of_isUnsigned h
  by_cases hone : q.boost.numEq Single.one = true
  · have hboost : q.withBoost Single.one = q := by
      rw [← Single.eq_one_of_numEq h hone, withBoost_self]
    cases occur <;>
      simp [Occur.apply, toOperand, require, prohibit, bindingBoost, hone, scale, hboost]
  · have hscale : (q.withBoost Single.one).scale (some q.boost) = q := by
      rw [scale, boost_withBoost, withBoost_withBoost, Single.one_mul hfinite, withBoost_self]
    cases occur <;>
      simp [Occur.apply, toOperand, require, prohibit, bindingBoost, hone,
        Single.product_singleton hfinite, hscale]

/-- The clause of an operand has the query and the sign that the operand was made from. -/
theorem place_apply {q : Query} (h : q.boost.isUnsigned = true) (occur default : Occur) :
    (occur.apply q.toOperand).place default false =
      some ⟨if occur = .should then default else occur, q⟩ := by
  have hquery : (occur.apply q.toOperand).query = some (q.withBoost Single.one) := by
    cases occur <;> rfl
  have hoccur : (occur.apply q.toOperand).occur.getD default =
      if occur = .should then default else occur := by
    cases occur <;> rfl
  simp [place, hquery, hoccur, scale_bindingBoost h occur]

/-- An operand of a group side by side is one clause: a leaf always, and a group because it was
itself written side by side and so cannot be spliced. -/
theorem clauses_apply {q : Query} (h : q.boost.isUnsigned = true) (occur : Occur) {splice : Bool}
    (hsplice : splice = true → (occur.apply q.toOperand).canSplice (.implicit .or) = true) :
    (occur.apply q.toOperand).clauses (.implicit .or) splice = [⟨occur, q⟩] := by
  have hplace : (occur.apply q.toOperand).place .should false = some ⟨occur, q⟩ := by
    rw [place_apply h occur .should]
    cases occur <;> rfl
  cases q with
  | leaf l boost =>
    have hjunction : (occur.apply (leaf l boost).toOperand).junction = none := by
      cases occur <;> rfl
    rw [clauses_of_junction_none hjunction, clauses_of_not_splice]
    exact congrArg Option.toList hplace
  | boolean cs boost =>
    have hno : (occur.apply (boolean cs boost).toOperand).canSplice (.implicit .or) = false := by
      cases occur <;> simp [canSplice, Occur.apply, toOperand, require, prohibit, isLeaf, isBoolean,
        withBoost]
    have hfalse : splice = false := by
      cases splice with
      | false => rfl
      | true => simp [hno] at hsplice
    rw [hfalse, clauses_of_not_splice]
    exact congrArg Option.toList hplace

theorem ofTree_boostedBy {analyzer : Analyzer} {config : Config} {field : String} {t : Tree}
    {u : Operand} (h : Operand.ofTree analyzer config field t = .ok u) (hu : u.boosts = [])
    {boost : Single} (hboost : boost.isUnsigned = true) :
    Operand.ofTree analyzer config field (t.boostedBy boost) =
      .ok { u with boosts := if boost.numEq Single.one then [] else [boost] } := by
  have hfinite := Single.isFinite_of_isUnsigned hboost
  by_cases hone : boost.numEq Single.one = true
  · rw [Tree.boostedBy, if_pos hone, if_pos hone, h, ← hu]
  · rw [Tree.boostedBy, if_neg hone, if_neg hone, Operand.ofTree, h]
    simp [Operand.boost, hu, Single.product_singleton hfinite, hfinite, Except.mapError]

theorem ofTree_mark {analyzer : Analyzer} {config : Config} {field : String} {t : Tree}
    {u : Operand} (h : Operand.ofTree analyzer config field t = .ok u) (occur : Occur) :
    Operand.ofTree analyzer config field (occur.mark t) = .ok (occur.apply u) := by
  cases occur with
  | must => rw [Occur.mark, Operand.ofTree, h]; rfl
  | should => exact h
  | mustNot => rw [Occur.mark, Operand.ofTree, h]; rfl

theorem ofTrees_clauseTrees {analyzer : Analyzer} {config : Config} {field : String}
    {cs : List (Clause Query)}
    (h : ∀ c ∈ cs, Operand.ofTree analyzer config field c.query.toTree = .ok c.query.toOperand) :
    Operand.ofTrees analyzer config field (clauseTrees cs) =
      .ok (cs.map fun c => c.occur.apply c.query.toOperand) := by
  induction cs with
  | nil => rfl
  | cons c cs ih =>
    have hfirst := ofTree_mark (h c (by simp)) c.occur
    have hrest := ih fun d hd => h d (List.mem_cons_of_mem c hd)
    rw [clauseTrees, Operand.ofTrees, hfirst, hrest]
    rfl

/-- The operands of several clauses make a group of these clauses. -/
theorem group_clauses {cs : List (Clause Query)} (several : 2 ≤ cs.length)
    (h : ∀ c ∈ cs, c.query.boost.isUnsigned = true) :
    group (.implicit .or) (cs.map fun c => c.occur.apply c.query.toOperand) =
      { query := some (.ofClauses cs), junction := some (.implicit .or) } := by
  have hclauses : ∀ splice : Bool, (splice = true → ∀ c ∈ cs,
      (c.occur.apply c.query.toOperand).canSplice (.implicit .or) = true) →
      (cs.map fun c => c.occur.apply c.query.toOperand).flatMap (clauses (.implicit .or) splice) =
        cs := by
    intro splice hsplice
    rw [List.flatMap_map]
    calc cs.flatMap (fun c => (c.occur.apply c.query.toOperand).clauses (.implicit .or) splice)
      _ = cs.flatMap (fun c => [c]) :=
        List.flatMap_congr fun c hc => clauses_apply (h c hc) c.occur fun hs => hsplice hs c hc
      _ = cs := by simp
  unfold group
  rw [excluding_of_ne_not (by simp), hclauses _ fun hall c hc => ?_]
  · exact ofClauses_of_several _ several
  · rw [List.all_eq_true] at hall
    exact hall _ (List.mem_map_of_mem hc)

/-- The tree of a canonical text makes the operand of its query. -/
theorem Renderable.ofTree {config : Config} {q : Query} (h : q.Renderable config)
    (field : String) :
    Operand.ofTree .whitespace config field q.toTree = .ok q.toOperand := by
  induction h with
  | leaf vocabulary unsigned => exact ofTree_boostedBy (vocabulary.ofTree field) rfl unsigned
  | @boolean cs boost several all unsigned ih =>
    have hgroup : Operand.ofTree .whitespace config field (.group (.implicit .or) (clauseTrees cs)) =
        .ok { query := some (.ofClauses cs), junction := some (.implicit .or) } := by
      rw [Operand.ofTree, ofTrees_clauseTrees ih,
        ← group_clauses several fun c hc => isUnsigned_boost (all c hc)]
      rfl
    exact ofTree_boostedBy hgroup rfl unsigned

/-- The query that the operand of a canonical text stands for, with the sign before it. -/
theorem toQuery_apply {q : Query} (h : q.boost.isUnsigned = true) (occur : Occur) :
    (occur.apply q.toOperand).toQuery =
      if occur = .mustNot then .ofClauses [⟨.mustNot, q⟩] else q := by
  rw [toQuery, place_apply h occur .must]
  cases occur <;> rfl

/-- The text of an expressible query is a sequence for a tree that makes the query. -/
theorem Expressible.exists_tree {config : Config} {q : Query} (h : q.Expressible config)
    {depth : Nat} (hdepth : q.nesting ≤ depth) (field : String) :
    ∃ t u, Spelled (Sequence .or (Unary .or depth)) q.spelling t ∧
      Operand.ofTree .whitespace config field t = .ok u ∧ u.toQuery = q := by
  cases h with
  | query h =>
    exact ⟨q.toTree, q.toOperand, h.readable depth hdepth, h.ofTree field,
      toQuery_apply (isUnsigned_boost h) .should⟩
  | @prohibition q h =>
    have hclause : Spelled (Unary .or depth) (clauseSpelling ⟨.mustNot, q⟩)
        (.prohibited q.toTree) := by
      rw [nesting_singleton] at hdepth
      exact spelled_clauseSpelling (c := ⟨.mustNot, q⟩) h h.readable hdepth
    refine ⟨.prohibited q.toTree, q.toOperand.prohibit, ?_,
      ofTree_mark (h.ofTree field) .mustNot, toQuery_apply (isUnsigned_boost h) .mustNot⟩
    rw [spelling_singleton]
    exact hclause.mono fun _ hu => .single (either_of_unary hu)

end Query

/-- Parsing the canonical text of an expressible query gives that query, if the parser admits its
clauses and the depth of its text. -/
theorem Parser.parse_render {p : Parser} {q : Query} (field : String)
    (analyzer : p.analyzer = .whitespace) (operator : p.config.defaultOperator = .or)
    (expressible : q.Expressible p.config)
    (clauses : q.clauseCount ≤ p.config.maxClauseCount.toNat)
    (depth : q.nesting ≤ p.config.maxDepth.toNat) : p.parse q.render field = .ok q := by
  obtain ⟨t, u, ⟨ks, hspells, hread, -⟩, hu, hquery⟩ := expressible.exists_tree depth field
  refine Parser.parse_eq_ok_iff.mpr ⟨t, u, ⟨ks, ?_, ?_⟩, ?_, hquery, clauses⟩
  · rwa [Query.render, String.toList_ofList]
  · rwa [operator]
  · rwa [analyzer]

/-- A query with leaves of several kinds, signs, and a boosted group within a group. -/
def Query.manifold : Query :=
  .ofClauses [⟨.must, .leaf (.term "title" "AND") Single.half⟩,
    ⟨.mustNot, .boolean [⟨.mustNot, .leaf (.phrase "body" ["a\"b", "+c"] 3) Single.one⟩,
      ⟨.should, .leaf (.fuzzy "body" "x y" Single.half 0) Single.zero⟩] Single.half⟩,
    ⟨.should, .leaf (.wildcard "-n" "(a\\*?") Single.one⟩,
    ⟨.should, .leaf (.range "n" (some "*") none true false) Single.one⟩,
    ⟨.should, .leaf .matchAll Single.one⟩]

theorem Query.expressible_manifold : manifold.Expressible {} := by
  refine .query (.boolean (by decide) ?_ rfl)
  simp only [List.mem_cons, List.not_mem_nil, or_false, forall_eq_or_imp, forall_eq]
  have hterm : List.Forall (fun c => isBlank c = false ∧ isWild c = false) "AND".toList := by decide
  have hfuzzy : List.Forall (fun c => isWild c = false) "x y".toList := by decide
  have hphrase : List.Forall (fun text => text ≠ "" ∧
      List.Forall (fun c => isBlank c = false) text.toList) ["a\"b", "+c"] := by decide
  simp only [List.forall_iff_forall_mem] at hterm hfuzzy hphrase
  refine ⟨.leaf (.term (by decide) (by decide) hterm) rfl, .boolean (by decide) ?_ rfl,
    .leaf (.wildcard (by decide) (by decide) (by decide) (by decide)) rfl,
    .leaf (.range (by decide) ?_) rfl, .leaf .matchAll rfl⟩
  · simp only [List.mem_cons, List.not_mem_nil, or_false, forall_eq_or_imp, forall_eq]
    exact ⟨.leaf (.phrase (by decide) (by decide) hphrase (by decide) (by decide)) rfl,
      .leaf (.fuzzy (by decide) (by decide) hfuzzy rfl (by decide) (by decide)) rfl⟩
  · intro text h
    obtain rfl : "*" = text := by simpa using h
    decide

theorem Parser.parse_render_manifold :
    Query.manifold.Expressible {} ∧
      Parser.parse ⟨.whitespace, {}⟩ Query.manifold.render "body" = .ok Query.manifold :=
  ⟨Query.expressible_manifold,
    Parser.parse_render "body" rfl rfl Query.expressible_manifold (by decide) (by decide)⟩

end SearchQuery
