import SearchQuery.Proofs.Grammar.Induction
import SearchQuery.Proofs.Grammar.Operands
import SearchQuery.Proofs.Lowering.Height

/-!
The depth limit. It makes no difference to a parse until it is reached, and then it is what is
reported. It bounds how deep trees go: a group is the only way from one operand to further ones, and
between two groups stand at most a boost, a field, a sequence and three levels of operators. Main
statement: more depth changes no tree, less depth fails only by its limit, and at depth `d` no way
down a tree has more than `6 * d + 7` nodes.
-/

namespace SearchQuery.Grammar

open Number (Single)

/-! ## Parsing with less depth -/

/-- Two outcomes are the same, unless the first one is that the depth limit was reached. -/
def SameWithin {α : Type} (limit : Nat) (x y : Except SyntaxError α) : Prop :=
  x = y ∨ ∃ position, x = .error (.tooDeep limit position)

theorem SameWithin.refl {α : Type} (limit : Nat) (x : Except SyntaxError α) :
    SameWithin limit x x := .inl rfl

theorem SameWithin.bind {α β : Type} {limit : Nat} {x y : Except SyntaxError α}
    {f g : α → Except SyntaxError β} (h : SameWithin limit x y)
    (hfg : ∀ a, SameWithin limit (f a) (g a)) : SameWithin limit (x >>= f) (y >>= g) := by
  rcases h with rfl | ⟨position, rfl⟩
  · cases x with
    | error e => exact .inl rfl
    | ok a => exact hfg a
  · exact .inr ⟨position, rfl⟩

/-- The first parser does what the second one does until it reaches its depth limit. -/
def Shallower (limit : Nat) (p p' : Parse) : Prop := ∀ ts, SameWithin limit (p ts) (p' ts)

variable {limit : Nat} {p p' : Parse}

theorem operands_shallower (h : Shallower limit p p') (operator : Token.Kind) (n : Nat)
    (ts : List Token) :
    SameWithin limit (operands operator p n ts) (operands operator p' n ts) := by
  induction n generalizing ts with
  | zero => exact .refl limit _
  | succ n ih =>
    cases ts with
    | nil => exact .refl limit _
    | cons t rest =>
      rw [operands, operands]
      split
      · split
        · exact (h rest).bind fun r => (ih r.2).bind fun _ => .refl limit _
        · exact .refl limit _
      · exact .refl limit _

theorem Shallower.level (h : Shallower limit p p') (operator : Token.Kind) (junction : Junction) :
    Shallower limit (level operator junction p) (level operator junction p') := fun ts =>
  (h ts).bind fun _ => (operands_shallower h operator _ _).bind fun _ => .refl limit _

theorem Shallower.either (h : Shallower limit p p') : Shallower limit (either p) (either p') :=
  ((h.level .not .not).level .and .and).level .or .or

theorem elements_shallower (h : Shallower limit p p') (n : Nat) (ts : List Token) :
    SameWithin limit (elements p n ts) (elements p' n ts) := by
  induction n generalizing ts with
  | zero => exact .refl limit _
  | succ n ih =>
    cases ts with
    | nil => exact .refl limit _
    | cons t rest =>
      rw [elements, elements]
      split
      · exact .refl limit _
      · exact (h (t :: rest)).bind fun r => (ih r.2).bind fun _ => .refl limit _

theorem Shallower.sequence (h : Shallower limit p p') (operator : Operator) :
    Shallower limit (sequence operator p) (sequence operator p') := fun ts =>
  (elements_shallower h.either _ ts).bind fun _ => .refl limit _

/-- The operands one level further in, of which there are none where the limit is reached. -/
inductive DeeperShallower (limit : Nat) : Option Parse → Option Parse → Prop
  | reached {deeper' : Option Parse} : DeeperShallower limit none deeper'
  | more {p p' : Parse} (h : Shallower limit p p') : DeeperShallower limit (some p) (some p')

variable {deeper deeper' : Option Parse} {limit' : Nat}

/-- Groups are the only operands without a sign that look at the depth. -/
theorem base_shallower (h : DeeperShallower limit deeper deeper') (operator : Operator) :
    Shallower limit (base operator limit deeper) (base operator limit' deeper') := by
  intro ts
  cases ts with
  | nil => exact .refl limit _
  | cons t rest =>
    obtain ⟨kind, offset⟩ := t
    cases kind with
    | leftParen =>
      cases h with
      | reached => exact .inr ⟨offset, rfl⟩
      | more h => exact (h.sequence operator rest).bind fun _ => .refl limit _
    | _ => exact .refl limit _

theorem primary_shallower (h : DeeperShallower limit deeper deeper') (operator : Operator) :
    Shallower limit (primary operator limit deeper) (primary operator limit' deeper') := by
  intro ts
  have plain : SameWithin limit (base operator limit deeper ts)
      (base operator limit' deeper' ts) := base_shallower h operator ts
  cases ts with
  | nil => exact plain
  | cons first rest =>
    obtain ⟨kind, offset⟩ := first
    cases kind with
    | field name =>
      rw [primary, primary]
      split
      · exact (base_shallower h operator rest).bind fun _ => .refl limit _
      · exact .refl limit _
    | _ => exact plain

theorem signed_shallower (h : DeeperShallower limit deeper deeper') (operator : Operator) :
    Shallower limit (signed operator limit deeper) (signed operator limit' deeper') := by
  intro ts
  have plain : SameWithin limit (suffixed operator limit deeper ts)
      (suffixed operator limit' deeper' ts) :=
    (primary_shallower h operator ts).bind fun _ => .refl limit _
  cases ts with
  | nil => exact plain
  | cons first rest =>
    simp only [signed]
    split
    · split
      · cases h with
        | reached => exact .inr ⟨first.offset, rfl⟩
        | more h => exact (h rest).bind fun _ => .refl limit _
      · exact .refl limit _
    · exact plain

/-- With less depth the operands are read as before, unless the limit is reached. -/
theorem unary_shallower (operator : Operator) {depth depth' : Nat} (h : depth ≤ depth') :
    Shallower limit (unary operator limit depth) (unary operator limit' depth') := by
  induction depth generalizing depth' with
  | zero =>
    cases depth' with
    | zero => exact signed_shallower .reached operator
    | succ depth' => exact signed_shallower .reached operator
  | succ depth ih =>
    obtain ⟨depth', rfl⟩ : ∃ less, depth' = less + 1 := ⟨depth' - 1, by omega⟩
    exact signed_shallower (.more (ih (by omega))) operator

/-! ## The height of trees -/

/-- No tree of a language is higher than `n`. -/
def Within (n : Nat) (L : Language) : Prop :=
  ∀ ⦃ks : List Token.Kind⦄ ⦃t : Tree⦄, L ks t → t.height ≤ n

variable {n : Nat} {L : Language} {operator : Operator}

theorem Within.spelling (h : Within n L) : Spelling (fun _ => True) (·.height ≤ n) L :=
  fun _ _ hl _ => h hl

theorem Within.level (h : Within n L) (k : Token.Kind) (junction : Junction) :
    Within (n + 1) (Level k junction L) := by
  intro ks t hl
  cases hl with
  | single only => exact Nat.le_succ_of_le (h only)
  | several first others =>
    have hothers := others.forall_trees h.spelling fun _ _ => trivial
    refine Nat.succ_le_succ (Tree.heightAll_le_iff.mpr ?_)
    rw [List.forall_mem_cons]
    exact ⟨h first, hothers⟩

theorem Within.either (h : Within n L) : Within (n + 3) (Either L) :=
  ((h.level .not .not).level .and .and).level .or .or

theorem Within.sequence (h : Within n L) (operator : Operator) :
    Within (n + 4) (Sequence operator L) := by
  intro ks t hs
  cases hs with
  | single only => exact Nat.le_succ_of_le (h.either only)
  | several all =>
    have hall := all.forall_trees h.either.spelling fun _ _ => trivial
    exact Nat.succ_le_succ (Tree.heightAll_le_iff.mpr hall)

/-- An operand without a field name is an atom or what stands in a group. -/
theorem Base.atom_or_sequence {ks : List Token.Kind} {t : Tree} (h : Base operator L ks t) :
    (∃ a, t = .atom none a) ∨ ∃ inner, Sequence operator L inner t := by
  cases h with
  | group inner => exact .inr ⟨_, inner⟩
  | _ => exact .inl ⟨_, rfl⟩

theorem height_under_le (t : Tree) (field : String) : (t.under field).height ≤ t.height + 1 := by
  cases t with
  | atom own a => exact Nat.le_succ 1
  | _ => exact Nat.le_refl _

/-- A field name adds a node around a group only. -/
theorem Within.primary (h : ∀ ⦃ks t⦄, Sequence operator L ks t → t.height < n) (hn : 0 < n) :
    Within n (Primary operator L) := by
  intro ks t hp
  cases hp with
  | plain base =>
    rcases base.atom_or_sequence with ⟨a, rfl⟩ | ⟨inner, hs⟩
    · exact hn
    · exact Nat.le_of_lt (h hs)
  | under base =>
    rcases base.atom_or_sequence with ⟨a, rfl⟩ | ⟨inner, hs⟩
    · exact hn
    · exact Nat.le_trans (height_under_le _ _) (h hs)

/-- The boosts after an operand are one node, and `~` adds none. -/
theorem Suffixes.height_le {grouped tilde : Bool} {t result : Tree} {boost : Option Single}
    {ks : List Token.Kind} (h : Suffixes grouped t boost tilde ks result) :
    result.height ≤ t.height + 1 := by
  induction h with
  | @nil t boost tilde =>
    cases boost with
    | none => exact Nat.le_succ _
    | some b => exact Nat.le_refl _
  | caret _ _ ih => exact ih
  | tilde _ applied _ ih =>
    cases applied with
    | fuzzy => exact ih
    | slop => exact ih

theorem Within.signed (h : Within n L) (hprimary : Within n (Primary operator L)) :
    Within (n + 1) (Signed operator L) := by
  intro ks t hs
  cases hs with
  | required operand => exact Nat.succ_le_succ (h operand)
  | prohibited _ operand => exact Nat.succ_le_succ (h operand)
  | plain operand =>
    obtain ⟨primary, suffixes⟩ := operand
    exact Nat.le_trans suffixes.height_le (Nat.succ_le_succ (hprimary primary))

/-- One more depth is at most six more nodes: an implicit sequence, three levels of operators, a
field and a boost. -/
theorem Within.unary (operator : Operator) (depth : Nat) :
    Within (6 * depth + 2) (Unary operator depth) := by
  induction depth with
  | zero =>
    have hempty : ∀ (ks : List Token.Kind) (t : Tree), ¬ (fun _ _ => False : Language) ks t :=
      fun _ _ => id
    refine Within.signed (fun _ _ hl => hl.elim) (Within.primary ?_ Nat.one_pos)
    exact fun _ _ hs => absurd hs (Sequence.not_of_empty hempty)
  | succ depth ih =>
    have hinner : Within (6 * depth + 6) (Sequence operator (Unary operator depth)) :=
      ih.sequence operator
    have hoperand : Within (6 * depth + 7) (Unary operator depth) :=
      fun _ _ hl => Nat.le_trans (ih hl) (by omega)
    exact hoperand.signed (Within.primary (fun _ _ hs => Nat.lt_succ_of_le (hinner hs)) (by omega))

end SearchQuery.Grammar

namespace SearchQuery

/-- With less depth tokens have the same tree or the same fault, unless the limit is reached. -/
theorem Tree.ofTokens_sameWithin (tokens : List Token) (field : String) (operator : Operator)
    {d d' : Nat} (h : d ≤ d') :
    Grammar.SameWithin d (Tree.ofTokens tokens field operator d)
      (Tree.ofTokens tokens field operator d') := by
  unfold Tree.ofTokens
  split
  · exact .refl d _
  · exact ((Grammar.unary_shallower operator h).sequence operator tokens).bind
      fun _ => .refl d _

/-- A tree of depth `d` has at most `6 * d + 7` nodes on any way down. -/
theorem Tree.height_of_ofTokens {tokens : List Token} {field : String} {operator : Operator}
    {d : Nat} {t : Tree} (h : Tree.ofTokens tokens field operator d = .ok t) :
    t.height ≤ 6 * d + 7 := by
  obtain ⟨t, rfl, hs⟩ := Tree.ofTokens_eq_ok_iff.mp h
  exact Nat.succ_le_succ ((Grammar.Within.unary operator d).sequence operator hs)

/-- A tree that a depth allows stays the same with more depth. Where less depth refuses it, the
message says so. The depth bounds every way down the tree, the lines of its outline, and the query
that it means. -/
theorem Tree.ofTokens_depth_limit (tokens : List Token) (field : String) (operator : Operator)
    {d d' : Nat} (h : d ≤ d') :
    (∀ t, Tree.ofTokens tokens field operator d = .ok t →
      Tree.ofTokens tokens field operator d' = .ok t) ∧
    (∀ t e, Tree.ofTokens tokens field operator d' = .ok t →
      Tree.ofTokens tokens field operator d = .error e →
      ∃ position, e = .tooDeep d position ∧ (Error.grammatical e).message =
        s!"syntax error: query nesting exceeds the maximum depth of {d} at position {position}") ∧
    ∀ t, Tree.ofTokens tokens field operator d = .ok t →
      (∀ path, t.Descent path → path.length ≤ 6 * d + 7) ∧
      (∀ line ∈ t.outline 0, line.1 < 6 * d + 7) ∧
      ∀ analyzer config scope q, Query.ofTree analyzer config scope t = .ok q →
        q.height ≤ 6 * d + 7 := by
  have hsame := Tree.ofTokens_sameWithin tokens field operator h
  refine ⟨fun t ht => ?_, fun t e ht he => ?_, fun t ht => ⟨?_, ?_, ?_⟩⟩
  · rcases hsame with heq | ⟨position, hdeep⟩
    · exact heq ▸ ht
    · rw [hdeep] at ht
      cases ht
  · rcases hsame with heq | ⟨position, hdeep⟩
    · rw [heq, ht] at he
      cases he
    · rw [hdeep] at he
      cases he
      exact ⟨position, rfl, rfl⟩
  · intro path hpath
    exact Nat.le_trans hpath.length_le_height (Tree.height_of_ofTokens ht)
  · intro line hline
    have hlt := Tree.depth_lt_of_mem_outline t hline
    have hle := Tree.height_of_ofTokens ht
    omega
  · intro analyzer config scope q hq
    exact Nat.le_trans (Query.height_ofTree hq) (Tree.height_of_ofTokens ht)

/-- The tokens of `-(+g:(a b))`, which nests two signs and two groups. -/
theorem Tree.ofTokens_depth_limit_nested :
    let tokens : List Token := [⟨.minus, 0⟩, ⟨.leftParen, 1⟩, ⟨.plus, 2⟩, ⟨.field "g", 3⟩,
      ⟨.leftParen, 5⟩, ⟨.term "a", 6⟩, ⟨.term "b", 8⟩, ⟨.rightParen, 9⟩, ⟨.rightParen, 10⟩]
    let tree : Tree := .scope "f" (.prohibited (.required (.scope "g"
      (.group (.implicit .or) [.atom none (.term "a"), .atom none (.term "b")]))))
    Tree.ofTokens tokens "f" .or 4 = .ok tree ∧ Tree.ofTokens tokens "f" .or 64 = .ok tree ∧
      Tree.ofTokens tokens "f" .or 3 = .error (.tooDeep 3 5) ∧
      (Error.grammatical (.tooDeep 3 5)).message =
        "syntax error: query nesting exceeds the maximum depth of 3 at position 5" ∧
      ∀ path, tree.Descent path → path.length ≤ 31 := by
  intro tokens tree
  have htree : Tree.ofTokens tokens "f" .or 4 = .ok tree := rfl
  have hdeep : Tree.ofTokens tokens "f" .or 3 = .error (.tooDeep 3 5) := rfl
  have hmore := Tree.ofTokens_depth_limit tokens "f" .or (show 4 ≤ 64 by decide)
  have hless := Tree.ofTokens_depth_limit tokens "f" .or (show 3 ≤ 4 by decide)
  obtain ⟨position, hposition, hmessage⟩ := hless.2.1 tree _ htree hdeep
  cases hposition
  exact ⟨htree, hmore.1 tree htree, hdeep, hmessage, (hmore.2.2 tree htree).1⟩

end SearchQuery
