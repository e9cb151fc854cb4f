import SearchQuery.Proofs.Grammar.Operands
import SearchQuery.Proofs.Number.Product
import SearchQuery.Proofs.Number.Words

/-!
Trees written as tokens with every operand in parentheses. No parenthesis is left out, so that the
spelling needs no rules of precedence, and what stands around an operand cannot reach into it. Main
statement: every tree that the grammar can make is read from its spelling.
-/

namespace SearchQuery

open Grammar
open Number (Single Format)

/-- The operator that is written between the operands of a group. -/
def Junction.operatorKinds : Junction → List Token.Kind
  | .and => [.and]
  | .or => [.or]
  | .not => [.not]
  | .implicit _ => []

/-- A bound of a range. A closed one is quoted, so that it is never taken for an open one. -/
def boundKind : Option String → Token.Kind
  | none => .wildcard "*"
  | some text => .phrase text

namespace Atom

/-- The tokens of an atom. A slop is written as the number nearest to it. -/
def tokenKinds : Atom → List Token.Kind
  | .term text => [.term text]
  | .phrase text none => [.phrase text]
  | .phrase text (some slop) => [.phrase text, .tilde (some (Single.ofDecimal ⟨slop.toNat, 0⟩))]
  | .wildcard pattern => [.wildcard pattern]
  | .fuzzy text similarity => [.term text, .tilde similarity]
  | .range lower upper includeLower includeUpper =>
    [opening includeLower, boundKind lower, .rangeTo, boundKind upper, closing includeUpper]

/-- What the grammar can make of tokens: a lone `*` is no term, similarities are at least zero and
below one, and a slop has few enough bits to be a single-precision number. -/
def Spellable : Atom → Prop
  | .term text => text ≠ "*"
  | .phrase _ slop => ∀ n, slop = some n → Format.single.Significant n.toNat
  | .fuzzy text similarity =>
    text ≠ "*" ∧ ∀ s, similarity = some s → s.inUnitInterval = true
  | _ => True

end Atom

/-- Puts parentheses around tokens. -/
def inParens (ks : List Token.Kind) : List Token.Kind := .leftParen :: (ks ++ [.rightParen])

namespace Tree

mutual

/-- The tokens of a tree, with every operand in parentheses. -/
def parenthesized : Tree → List Token.Kind
  | .atom own a => (own.map Token.Kind.field).toList ++ a.tokenKinds
  | .scope field child => .field field :: inParens child.parenthesized
  | .group junction children => junction.operatorKinds.intercalate (parenthesizedAll children)
  | .boost value child => inParens child.parenthesized ++ [.caret (some value)]
  | .required child => .plus :: inParens child.parenthesized
  | .prohibited child => .minus :: inParens child.parenthesized

/-- The tokens of each operand. -/
def parenthesizedAll : List Tree → List (List Token.Kind)
  | [] => []
  | t :: ts => inParens t.parenthesized :: parenthesizedAll ts

end

mutual

/-- How many of these parentheses and of the signs before them are open at once. -/
def nesting : Tree → Nat
  | .atom .. => 0
  | .scope _ child => child.nesting + 1
  | .group _ children => nestingAll children + 1
  | .boost _ child => child.nesting + 1
  | .required child => child.nesting + 2
  | .prohibited child => child.nesting + 2

def nestingAll : List Tree → Nat
  | [] => 0
  | t :: ts => max t.nesting (nestingAll ts)

end

/-- What the grammar can make of tokens: groups have several operands, those written side by side
are joined by the default operator, boosts are finite, and a field belongs to an atom itself. -/
inductive Spellable (operator : Operator) : Tree → Prop
  | atom {own : Option String} {a : Atom} (spellable : a.Spellable) :
      Spellable operator (.atom own a)
  | scope {field : String} {t : Tree} (compound : t.isAtom = false) (child : Spellable operator t) :
      Spellable operator (.scope field t)
  | group {junction : Junction} {ts : List Tree} (several : 2 ≤ ts.length)
      (joined : ∀ o, junction = .implicit o → o = operator)
      (all : ∀ t ∈ ts, Spellable operator t) : Spellable operator (.group junction ts)
  | boost {value : Single} {t : Tree} (finite : value.isFinite = true)
      (child : Spellable operator t) : Spellable operator (.boost value t)
  | required {t : Tree} (child : Spellable operator t) : Spellable operator (.required t)
  | prohibited {t : Tree} (child : Spellable operator t) : Spellable operator (.prohibited t)

theorem parenthesizedAll_eq (ts : List Tree) :
    parenthesizedAll ts = ts.map fun t => inParens t.parenthesized := by
  induction ts with
  | nil => rfl
  | cons t ts ih => rw [parenthesizedAll, ih, List.map_cons]

theorem nesting_le_nestingAll {ts : List Tree} {t : Tree} (h : t ∈ ts) :
    t.nesting ≤ nestingAll ts := by
  induction ts with
  | nil => cases h
  | cons t' ts ih =>
    rw [nestingAll]
    rcases List.mem_cons.mp h with rfl | h
    · exact Nat.le_max_left _ _
    · exact Nat.le_trans (ih h) (Nat.le_max_right _ _)

theorem under_of_not_isAtom {t : Tree} (h : t.isAtom = false) (field : String) :
    t.under field = .scope field t := by
  cases t with
  | atom => cases h
  | _ => rfl

end Tree

namespace Grammar

variable {operator : Operator} {deeper : Language}

theorem bound_boundKind (bound : Option String) : Bound (boundKind bound) bound := by
  cases bound with
  | none => exact .opened
  | some text => exact .phrase

/-- An atom is an operand, behind a field name or not. -/
theorem primary_of_base {ks : List Token.Kind} {a : Atom}
    (h : Base operator deeper ks (.atom none a)) (own : Option String) :
    Primary operator deeper ((own.map Token.Kind.field).toList ++ ks) (.atom own a) := by
  cases own with
  | none => exact .plain h
  | some name => exact .under h

/-- One `~` after an atom that is no group. -/
theorem suffixed_tilde {k : Token.Kind} {own : Option String} {a : Atom} {value : Option Single}
    {t : Tree} (base : Base operator deeper [k] (.atom none a))
    (ungrouped : opensGroup [k] = false) (applied : Tilded (.atom own a) value t) :
    Suffixed operator deeper ((own.map Token.Kind.field).toList ++ [k, .tilde value]) t := by
  have hopens : opensGroup ((own.map Token.Kind.field).toList ++ [k]) = false := by
    cases own with
    | none => exact ungrouped
    | some name => cases k <;> first | rfl | cases ungrouped
  have hsuffixed := Suffixed.intro (primary_of_base base own) (.tilde hopens applied .nil)
  rwa [List.append_assoc] at hsuffixed

/-- The tokens of an atom are an operand, however deep it stands. -/
theorem suffixed_tokenKinds {a : Atom} (h : a.Spellable) (own : Option String) :
    Suffixed operator deeper ((own.map Token.Kind.field).toList ++ a.tokenKinds)
      (.atom own a) := by
  have plain (base : Base operator deeper a.tokenKinds (.atom none a)) :
      Suffixed operator deeper ((own.map Token.Kind.field).toList ++ a.tokenKinds)
        (.atom own a) := by
    have hsuffixed := Suffixed.intro (primary_of_base base own) .nil
    rwa [List.append_nil] at hsuffixed
  cases a with
  | term text => exact plain (.term h)
  | phrase text slop =>
    cases slop with
    | none => exact plain .phrase
    | some slop =>
      have hword : (Single.ofDecimal ⟨slop.toNat, 0⟩).toWord = slop := by
        rw [(Single.toWord_ofDecimal_toNat slop).2]
        exact (Single.rereadWord_eq_self_iff slop).mpr (.inl (h slop rfl))
      have happlied : Tilded (.atom own (.phrase text none))
          (some (Single.ofDecimal ⟨slop.toNat, 0⟩))
          (.atom own (.phrase text (some (Single.ofDecimal ⟨slop.toNat, 0⟩).toWord))) := .slop
      rw [hword] at happlied
      exact suffixed_tilde .phrase rfl happlied
  | wildcard pattern => exact plain .wildcard
  | fuzzy text similarity => exact suffixed_tilde (.term h.1) rfl (.fuzzy h.2)
  | range lower upper includeLower includeUpper =>
    exact plain (.range (bound_boundKind lower) (bound_boundKind upper))

theorem unary_of_suffixed {depth : Nat} {ks : List Token.Kind} {t : Tree}
    (h : ∀ deeper, Suffixed operator deeper ks t) : Unary operator depth ks t := by
  cases depth with
  | zero => exact .plain (h _)
  | succ depth => exact .plain (h _)

theorem sequence_of_unary {depth : Nat} {ks : List Token.Kind} {t : Tree}
    (h : Unary operator depth ks t) : Sequence operator (Unary operator depth) ks t :=
  .single (.single (.single (.single h)))

/-- A sequence in parentheses is an operand one level further out. -/
theorem unary_inParens {depth : Nat} {ks : List Token.Kind} {t : Tree}
    (h : Sequence operator (Unary operator depth) ks t) :
    Unary operator (depth + 1) (inParens ks) t := by
  have hsuffixed := Suffixed.intro (.plain (.group h)) .nil
  rw [List.append_nil] at hsuffixed
  exact .plain hsuffixed

/-- Operands with an operator between them: those after the first one follow it. -/
theorem others_intercalate {kind : Token.Kind} {operand : Language}
    {spell : Tree → List Token.Kind} (t : Tree) {ts : List Tree}
    (h : ∀ u ∈ ts, operand (spell u) u) :
    ∃ rest, [kind].intercalate ((t :: ts).map spell) = spell t ++ rest ∧
      Others kind operand rest ts := by
  induction ts generalizing t with
  | nil => exact ⟨[], by rw [List.map_singleton, List.intercalate_singleton, List.append_nil], .nil⟩
  | cons u us ih =>
    rw [List.forall_mem_cons] at h
    obtain ⟨rest, heq, hothers⟩ := ih u h.2
    refine ⟨kind :: (spell u ++ rest), ?_, .cons h.1 hothers⟩
    rw [List.map_cons, List.map_cons, List.intercalate_cons_cons, ← List.map_cons, heq]
    simp

/-- Several operands with an operator between them are one level. -/
theorem level_intercalate {kind : Token.Kind} {junction : Junction} {operand : Language}
    {spell : Tree → List Token.Kind} {ts : List Tree} (several : 2 ≤ ts.length)
    (h : ∀ t ∈ ts, operand (spell t) t) :
    Level kind junction operand ([kind].intercalate (ts.map spell)) (.group junction ts) := by
  match ts, several with
  | t :: u :: us, _ =>
    rw [List.forall_mem_cons] at h
    obtain ⟨rest, heq, hothers⟩ := others_intercalate t h.2
    rw [heq]
    exact .several h.1 hothers

/-- Groups side by side are elements, since none of them starts with `NOT`. -/
theorem elements_intercalate {element : Language} {spell : Tree → List Token.Kind}
    (grouped : ∀ t, (spell t).head? = some .leftParen) {ts : List Tree} (nonempty : ts ≠ [])
    (h : ∀ t ∈ ts, element (spell t) t) :
    Elements element ([].intercalate (ts.map spell)) ts := by
  induction ts with
  | nil => exact absurd rfl nonempty
  | cons t us ih =>
    rw [List.forall_mem_cons] at h
    cases us with
    | nil =>
      rw [List.map_singleton, List.intercalate_singleton]
      exact .single h.1
    | cons u us =>
      have hhead : ([].intercalate ((u :: us).map spell)).head? = some .leftParen := by
        cases us <;> simp [List.intercalate_cons_cons, grouped u]
      rw [List.map_cons, List.map_cons, List.intercalate_cons_cons, List.append_nil,
        ← List.map_cons]
      exact .cons h.1 (ih (by simp) h.2) (by rw [hhead]; simp)

/-- The spelling of a group is a sequence, if each operand in parentheses is an operand. -/
theorem sequence_group {depth : Nat} {junction : Junction} {ts : List Tree}
    (several : 2 ≤ ts.length) (joined : ∀ o, junction = .implicit o → o = operator)
    (h : ∀ t ∈ ts, Unary operator depth (inParens t.parenthesized) t) :
    Sequence operator (Unary operator depth)
      (junction.operatorKinds.intercalate (ts.map fun t => inParens t.parenthesized))
      (.group junction ts) := by
  cases junction with
  | and => exact .single (.single (level_intercalate several fun t ht => .single (h t ht)))
  | or => exact .single (level_intercalate several fun t ht => .single (.single (h t ht)))
  | not => exact .single (.single (.single (level_intercalate several h)))
  | implicit o =>
    obtain rfl := joined o rfl
    have hall : Elements (Either (Unary o depth))
        ([].intercalate (ts.map fun t => inParens t.parenthesized)) ts :=
      elements_intercalate (fun _ => rfl) (by rintro rfl; simp at several)
        fun t ht => .single (.single (.single (h t ht)))
    match ts, several, hall with
    | _ :: _ :: _, _, hall => exact .several hall

/-- The spelling of a tree is a sequence for that tree, with enough levels left. -/
theorem sequence_parenthesized {t : Tree} (h : t.Spellable operator) {depth : Nat}
    (enough : t.nesting ≤ depth) :
    Sequence operator (Unary operator depth) t.parenthesized t := by
  induction h generalizing depth with
  | @atom own a spellable =>
    rw [Tree.parenthesized]
    exact sequence_of_unary (unary_of_suffixed fun _ => suffixed_tokenKinds spellable own)
  | @scope field t compound _ ih =>
    rw [Tree.nesting] at enough
    obtain ⟨inner, rfl⟩ : ∃ inner, depth = inner + 1 := ⟨depth - 1, by omega⟩
    have hprimary : Primary operator (Unary operator inner)
        (.field field :: inParens t.parenthesized) (t.under field) :=
      .under (.group (ih (by omega)))
    have hsuffixed := Suffixed.intro hprimary .nil
    rw [List.append_nil, Tree.under_of_not_isAtom compound] at hsuffixed
    rw [Tree.parenthesized]
    exact sequence_of_unary (.plain hsuffixed)
  | @group junction ts several joined _ ih =>
    rw [Tree.nesting] at enough
    obtain ⟨inner, rfl⟩ : ∃ inner, depth = inner + 1 := ⟨depth - 1, by omega⟩
    rw [Tree.parenthesized, Tree.parenthesizedAll_eq]
    refine sequence_group several joined fun t ht => unary_inParens (ih t ht ?_)
    have hle := Tree.nesting_le_nestingAll ht
    omega
  | @boost value t finite _ ih =>
    rw [Tree.nesting] at enough
    obtain ⟨inner, rfl⟩ : ∃ inner, depth = inner + 1 := ⟨depth - 1, by omega⟩
    have hproduct : Single.one.mul value = value := Single.one_mul finite
    have hsuffixes : Suffixes true t none false [.caret (some value)] (.boost value t) := by
      refine .caret ?_ ?_
      · rwa [Option.getD_none, hproduct]
      · rw [Option.getD_none, hproduct]
        exact .nil
    rw [Tree.parenthesized]
    exact sequence_of_unary (.plain (.intro (.plain (.group (ih (by omega)))) hsuffixes))
  | @required t _ ih =>
    rw [Tree.nesting] at enough
    obtain ⟨inner, rfl⟩ : ∃ inner, depth = inner + 2 := ⟨depth - 2, by omega⟩
    rw [Tree.parenthesized]
    exact sequence_of_unary (.required (unary_inParens (ih (by omega))))
  | @prohibited t _ ih =>
    rw [Tree.nesting] at enough
    obtain ⟨inner, rfl⟩ : ∃ inner, depth = inner + 2 := ⟨depth - 2, by omega⟩
    rw [Tree.parenthesized]
    exact sequence_of_unary (.prohibited (.inl rfl) (unary_inParens (ih (by omega))))

end Grammar

/-- A tree that the grammar can make is read from its tokens with every operand in parentheses,
wherever the tokens stand in a text. -/
theorem Tree.ofTokens_parenthesized {operator : Operator} {t : Tree} (h : t.Spellable operator)
    {tokens : List Token} (spelled : Grammar.kinds tokens = t.parenthesized) (field : String)
    {maxDepth : Nat} (enough : t.nesting ≤ maxDepth) :
    Tree.ofTokens tokens field operator maxDepth = .ok (.scope field t) := by
  rw [Tree.ofTokens_eq_ok_iff]
  exact ⟨t, rfl, spelled ▸ Grammar.sequence_parenthesized h enough⟩

/-- A tree with every kind of node. -/
def Tree.varied : Tree :=
  .group (.implicit .or)
    [.boost Single.half
        (.group .not
          [.atom none (.phrase "a b" (some 3000000000)), .atom (some "g") (.fuzzy "x" none)]),
      .required (.scope "f" (.group .or
        [.atom none (.range none (some "*") true false),
          .prohibited (.atom none (.wildcard "*"))]))]

theorem Tree.ofTokens_parenthesized_varied :
    Tree.varied.Spellable .or ∧ Tree.varied.nesting = 7 ∧
      Tree.ofTokens (Tree.varied.parenthesized.map (⟨·, 0⟩)) "d" .or 7 =
        .ok (.scope "d" Tree.varied) := by
  have hslop : Format.single.Significant (3000000000 : UInt32).toNat :=
    ⟨5859375, 9, by decide, by decide⟩
  have hphrase : (Atom.phrase "a b" (some 3000000000)).Spellable := by
    rintro n ⟨⟩
    exact hslop
  have hfuzzy : (Atom.fuzzy "x" none).Spellable := ⟨by decide, by simp⟩
  have hspellable : Tree.varied.Spellable .or := by
    refine .group (by decide) (by simp) ?_
    simp only [List.forall_mem_cons, List.not_mem_nil, false_implies, implies_true, and_true]
    constructor
    · refine .boost (by decide) (.group (by decide) (by simp) ?_)
      simp only [List.forall_mem_cons, List.not_mem_nil, false_implies, implies_true, and_true]
      exact ⟨.atom hphrase, .atom hfuzzy⟩
    · refine .required (.scope rfl (.group (by decide) (by simp) ?_))
      simp only [List.forall_mem_cons, List.not_mem_nil, false_implies, implies_true, and_true]
      exact ⟨.atom trivial, .prohibited (.atom trivial)⟩
  have hkinds : Grammar.kinds (Tree.varied.parenthesized.map (⟨·, 0⟩)) =
      Tree.varied.parenthesized := by
    rw [Grammar.kinds, List.map_map]
    exact List.map_id _
  exact ⟨hspellable, by decide, Tree.ofTokens_parenthesized hspellable hkinds "d" (by decide)⟩

end SearchQuery
