import SearchQuery.Proofs.Grammar.Language

/-!
Induction over the grammar. Main statement: what every production hands on from its parts holds of
every tree that tokens spell, given what holds of the tokens.
-/

namespace SearchQuery.Grammar

open Number (Single)

/-- A property of trees that each production hands on from its parts, given a property of the tokens
that it takes. The boosts after an operand multiply, and their products have a property of their
own. -/
structure Inherited (token : Token.Kind → Prop) (factor : Single → Prop) (tree : Tree → Prop) :
    Prop where
  group : ∀ {junction ts}, 2 ≤ ts.length → (∀ t ∈ ts, tree t) → tree (.group junction ts)
  all : token (.term "*") → tree (.atom none (.wildcard "*"))
  term : ∀ {text}, token (.term text) → tree (.atom none (.term text))
  wildcard : ∀ {pattern}, token (.wildcard pattern) → tree (.atom none (.wildcard pattern))
  phrase : ∀ {text}, token (.phrase text) → tree (.atom none (.phrase text none))
  range : ∀ {lower upper includeLower includeUpper}, token .rangeTo →
    tree (.atom none (.range lower upper includeLower includeUpper))
  under : ∀ {name t}, token (.field name) → tree t → tree (t.under name)
  tilde : ∀ {value t tilded}, token (.tilde value) → Tilded t value tilded → tree t → tree tilded
  caret : ∀ {boost : Option Single} {value : Single}, (∀ b, boost = some b → factor b) →
    token (.caret (some value)) → ((boost.getD Single.one).mul value).isFinite = true →
    factor ((boost.getD Single.one).mul value)
  boost : ∀ {value t}, factor value → tree t → tree (.boost value t)
  required : ∀ {t}, tree t → tree (.required t)
  prohibited : ∀ {t}, tree t → tree (.prohibited t)

/-- A language spells trees with a property only, out of tokens with a property. -/
def Spelling (token : Token.Kind → Prop) (tree : Tree → Prop) (L : Language) : Prop :=
  ∀ ⦃ks : List Token.Kind⦄ ⦃t : Tree⦄, L ks t → (∀ k ∈ ks, token k) → tree t

variable {token : Token.Kind → Prop} {factor : Single → Prop} {tree : Tree → Prop} {L : Language}

theorem Others.forall_trees {operator : Token.Kind} (hL : Spelling token tree L)
    {ks : List Token.Kind} {ts : List Tree} (h : Others operator L ks ts)
    (hks : ∀ k ∈ ks, token k) : ∀ t ∈ ts, tree t := by
  induction h with
  | nil => simp
  | cons first _ ih =>
    rw [List.forall_mem_cons, List.forall_mem_append] at hks
    rw [List.forall_mem_cons]
    exact ⟨hL first hks.2.1, ih hks.2.2⟩

theorem Elements.forall_trees (hL : Spelling token tree L) {ks : List Token.Kind} {ts : List Tree}
    (h : Elements L ks ts) (hks : ∀ k ∈ ks, token k) : ∀ t ∈ ts, tree t := by
  induction h with
  | single only =>
    rw [List.forall_mem_singleton]
    exact hL only hks
  | cons first _ _ ih =>
    rw [List.forall_mem_append] at hks
    exact List.forall_mem_cons.mpr ⟨hL first hks.1, ih hks.2⟩

namespace Inherited

variable (h : Inherited token factor tree)
include h

theorem level (hL : Spelling token tree L) (operator : Token.Kind) (junction : Junction) :
    Spelling token tree (Level operator junction L) := by
  intro ks t hl hks
  cases hl with
  | single only => exact hL only hks
  | several first others =>
    rw [List.forall_mem_append] at hks
    have hothers := others.forall_trees hL hks.2
    exact h.group (by simp) (List.forall_mem_cons.mpr ⟨hL first hks.1, hothers⟩)

theorem either (hL : Spelling token tree L) : Spelling token tree (Either L) :=
  h.level (h.level (h.level hL .not .not) .and .and) .or .or

theorem sequence (hL : Spelling token tree L) (operator : Operator) :
    Spelling token tree (Sequence operator L) := by
  intro ks t hs hks
  cases hs with
  | single only => exact h.either hL only hks
  | several all => exact h.group (by simp) (all.forall_trees (h.either hL) hks)

theorem base (hL : Spelling token tree L) (operator : Operator) :
    Spelling token tree (Base operator L) := by
  intro ks t hb hks
  cases hb with
  | group inner =>
    rw [List.forall_mem_cons, List.forall_mem_append] at hks
    exact h.sequence hL operator inner hks.2.1
  | all => exact h.all (hks _ (by simp))
  | term => exact h.term (hks _ (by simp))
  | wildcard => exact h.wildcard (hks _ (by simp))
  | phrase => exact h.phrase (hks _ (by simp))
  | range => exact h.range (hks _ (by simp))

theorem primary (hL : Spelling token tree L) (operator : Operator) :
    Spelling token tree (Primary operator L) := by
  intro ks t hp hks
  cases hp with
  | plain base => exact h.base hL operator base hks
  | under base =>
    rw [List.forall_mem_cons] at hks
    exact h.under hks.1 (h.base hL operator base hks.2)

/-- The product of the boosts so far has the property of boosts. -/
theorem suffixes {grouped tilde : Bool} {t result : Tree} {boost : Option Single}
    {ks : List Token.Kind} (hs : Suffixes grouped t boost tilde ks result)
    (hks : ∀ k ∈ ks, token k) (ht : tree t) (hboost : ∀ b, boost = some b → factor b) :
    tree result := by
  induction hs with
  | @nil t boost tilde =>
    cases boost with
    | none => exact ht
    | some b => exact h.boost (hboost b rfl) ht
  | @caret t result boost tilde value ks finite _ ih =>
    rw [List.forall_mem_cons] at hks
    refine ih hks.2 ht fun b hb => ?_
    cases hb
    exact h.caret hboost hks.1 finite
  | tilde _ applied _ ih =>
    rw [List.forall_mem_cons] at hks
    exact ih hks.2 (h.tilde hks.1 applied ht) hboost

theorem signed (hL : Spelling token tree L) (operator : Operator) :
    Spelling token tree (Signed operator L) := by
  intro ks t hs hks
  cases hs with
  | required operand =>
    rw [List.forall_mem_cons] at hks
    exact h.required (hL operand hks.2)
  | prohibited _ operand =>
    rw [List.forall_mem_cons] at hks
    exact h.prohibited (hL operand hks.2)
  | plain operand =>
    obtain ⟨primary, suffixes⟩ := operand
    rw [List.forall_mem_append] at hks
    exact h.suffixes suffixes hks.2 (h.primary hL operator primary hks.1) (by simp)

/-- An inherited property holds of the operands of every depth. -/
theorem unary (operator : Operator) (depth : Nat) : Spelling token tree (Unary operator depth) := by
  induction depth with
  | zero => exact h.signed (fun _ _ hl => hl.elim) operator
  | succ depth ih => exact h.signed ih operator

/-- An inherited property holds of every tree that tokens spell. -/
theorem spelled {operator : Operator} {depth : Nat} {ks : List Token.Kind} {t : Tree}
    (hs : Sequence operator (Unary operator depth) ks t) (hks : ∀ k ∈ ks, token k) : tree t :=
  h.sequence (h.unary operator depth) operator hs hks

end Inherited

end SearchQuery.Grammar
