import SearchQuery.Proofs.Scope

/-!
What the default operator decides. Two parsers that differ in it read the same tokens and fail at
the same place, and where one of them joins operands that are written side by side the other one
joins the same operands. Lowering looks at the junctions of the tree and not at the setting. Main
statement: the default operator is the tag of implicit groups and nothing else, and a text without
such a group means the same under either operator.
-/

namespace SearchQuery

open Number (Single)

/-- The junction with operands that are written side by side joined by an operator. -/
def Junction.joinedBy (operator : Operator) : Junction → Junction
  | implicit _ => implicit operator
  | junction => junction

/-- Whether a junction joins operands that are written side by side. -/
def Junction.isImplicit : Junction → Bool
  | implicit _ => true
  | _ => false

namespace Tree

mutual

/-- The tree with all operands that are written side by side joined by an operator. -/
def joinedBy (operator : Operator) : Tree → Tree
  | atom field a => atom field a
  | scope field child => scope field (joinedBy operator child)
  | group junction children =>
    group (junction.joinedBy operator) (joinedByAll operator children)
  | boost value child => boost value (joinedBy operator child)
  | prohibited child => prohibited (joinedBy operator child)
  | required child => required (joinedBy operator child)

def joinedByAll (operator : Operator) : List Tree → List Tree
  | [] => []
  | tree :: rest => joinedBy operator tree :: joinedByAll operator rest

end

mutual

/-- Whether operands are written side by side anywhere in a tree. -/
def juxtaposes : Tree → Bool
  | atom .. => false
  | scope _ child | boost _ child | prohibited child | required child => juxtaposes child
  | group junction children => junction.isImplicit || juxtaposesAny children

def juxtaposesAny : List Tree → Bool
  | [] => false
  | tree :: rest => juxtaposes tree || juxtaposesAny rest

end

theorem joinedByAll_eq (operator : Operator) (ts : List Tree) :
    joinedByAll operator ts = ts.map (joinedBy operator) := by
  induction ts with
  | nil => rfl
  | cons t ts ih => rw [joinedByAll, List.map_cons, ih]

theorem joinedBy_group (operator : Operator) (junction : Junction) (ts : List Tree) :
    joinedBy operator (group junction ts) =
      group (junction.joinedBy operator) (ts.map (joinedBy operator)) := by
  rw [joinedBy, joinedByAll_eq]

theorem joinedBy_under (operator : Operator) (field : String) (t : Tree) :
    joinedBy operator (t.under field) = (joinedBy operator t).under field := by
  cases t <;> simp only [under, joinedBy]

theorem joinedBy_boosted (operator : Operator) (boost : Option Single) (t : Tree) :
    joinedBy operator (Grammar.boosted boost t) = Grammar.boosted boost (joinedBy operator t) := by
  cases boost <;> simp only [Grammar.boosted, joinedBy]

mutual

/-- A tree without operands side by side has nothing for the operator to join. -/
theorem joinedBy_of_not_juxtaposes (operator : Operator) :
    (t : Tree) → t.juxtaposes = false → joinedBy operator t = t
  | .atom field a, _ => by rw [joinedBy]
  | .scope field t, h => by
    rw [juxtaposes] at h
    rw [joinedBy, joinedBy_of_not_juxtaposes operator t h]
  | .boost value t, h => by
    rw [juxtaposes] at h
    rw [joinedBy, joinedBy_of_not_juxtaposes operator t h]
  | .prohibited t, h => by
    rw [juxtaposes] at h
    rw [joinedBy, joinedBy_of_not_juxtaposes operator t h]
  | .required t, h => by
    rw [juxtaposes] at h
    rw [joinedBy, joinedBy_of_not_juxtaposes operator t h]
  | .group junction ts, h => by
    rw [juxtaposes, Bool.or_eq_false_iff] at h
    have hjunction : junction.joinedBy operator = junction := by
      cases junction with
      | implicit other => cases h.1
      | _ => rfl
    rw [joinedBy, hjunction, joinedByAll_of_not_juxtaposes operator ts h.2]

theorem joinedByAll_of_not_juxtaposes (operator : Operator) :
    (ts : List Tree) → juxtaposesAny ts = false → joinedByAll operator ts = ts
  | [], _ => by rw [joinedByAll]
  | t :: ts, h => by
    rw [juxtaposesAny, Bool.or_eq_false_iff] at h
    rw [joinedByAll, joinedBy_of_not_juxtaposes operator t h.1,
      joinedByAll_of_not_juxtaposes operator ts h.2]

end

end Tree

/-! ## Reading trees -/

namespace Grammar

open SearchQuery.Tree (joinedBy joinedBy_group joinedBy_under joinedBy_boosted)

/-- The second parser reads and fails as the first one does, and gives its trees with operands side
by side joined by the operator. -/
def Rejoins (operator : Operator) (p p' : Parse) : Prop :=
  ∀ ts, p' ts = (p ts).map (Prod.map (joinedBy operator) id)

variable {operator other : Operator} {p p' : Parse}

theorem operands_rejoins (h : Rejoins operator p p') (sign : Token.Kind) (n : Nat)
    (ts : List Token) :
    operands sign p' n ts =
      (operands sign p n ts).map (Prod.map (List.map (joinedBy operator)) id) := by
  induction n generalizing ts with
  | zero => rfl
  | succ n ih =>
    cases ts with
    | nil => rfl
    | cons t rest =>
      rw [operands, operands]
      split
      · split
        · rw [h rest]
          apply Except.map_bind_eq_map
          rintro ⟨tree, after⟩
          simp only [Prod.map_apply, id_eq, ih after]
          exact Except.map_bind_eq_map fun _ => rfl
        · rfl
      · rfl

/-- The operators that are written out keep their junctions. -/
theorem Rejoins.level (h : Rejoins operator p p') (sign : Token.Kind) {junction : Junction}
    (explicit : junction.joinedBy operator = junction) :
    Rejoins operator (level sign junction p) (level sign junction p') := by
  intro ts
  rw [Grammar.level, h ts]
  apply Except.map_bind_eq_map
  rintro ⟨first, rest⟩
  simp only [Prod.map_apply, id_eq, operands_rejoins h sign rest.length rest]
  apply Except.map_bind_eq_map
  rintro ⟨others, last⟩
  cases others with
  | nil => rfl
  | cons u us =>
    have hgroup := joinedBy_group operator junction (first :: u :: us)
    rw [explicit] at hgroup
    exact congrArg (fun t => Except.ok (t, last)) hgroup.symm

theorem Rejoins.either (h : Rejoins operator p p') : Rejoins operator (either p) (either p') :=
  ((h.level .not rfl).level .and rfl).level .or rfl

theorem elements_rejoins (h : Rejoins operator p p') (n : Nat) (ts : List Token) :
    elements p' n ts =
      (elements p n ts).map (Prod.map (List.map (joinedBy operator)) id) := by
  induction n generalizing ts with
  | zero => rfl
  | succ n ih =>
    cases ts with
    | nil => rfl
    | cons t rest =>
      rw [elements, elements]
      split
      · rfl
      · rw [h (t :: rest)]
        apply Except.map_bind_eq_map
        rintro ⟨tree, after⟩
        simp only [Prod.map_apply, id_eq, ih after]
        exact Except.map_bind_eq_map fun _ => rfl

/-- Several operands side by side are the one place where the operator is written into a tree. -/
theorem Rejoins.sequence (h : Rejoins operator p p') :
    Rejoins operator (sequence other p) (sequence operator p') := by
  intro ts
  rw [Grammar.sequence, elements_rejoins h.either]
  apply Except.map_bind_eq_map
  rintro ⟨trees, rest⟩
  match trees with
  | [] => rfl
  | [t] => rfl
  | t :: u :: us =>
    have hgroup := joinedBy_group operator (.implicit other) (t :: u :: us)
    exact congrArg (fun t => Except.ok (t, rest)) hgroup.symm

theorem Rejoins.group (h : Rejoins operator p p') (position : Nat) :
    Rejoins operator (group other p position) (group operator p' position) := by
  intro ts
  rw [Grammar.group, h.sequence ts]
  apply Except.map_bind_eq_map
  rintro ⟨tree, rest⟩
  match rest with
  | [] => rfl
  | t :: after =>
    obtain ⟨kind, offset⟩ := t
    cases kind <;> rfl

/-- The operands one level further in, of which there are none where the limit is reached. -/
inductive RejoinsDeeper (operator : Operator) : Option Parse → Option Parse → Prop
  | reached : RejoinsDeeper operator none none
  | more {p p' : Parse} (h : Rejoins operator p p') : RejoinsDeeper operator (some p) (some p')

variable {limit : Nat} {deeper deeper' : Option Parse}

/-- The parts of a range are no trees, and the range itself is an atom. -/
theorem range_rejoins (operator : Operator) (includeLower : Bool) (position : Nat) :
    Rejoins operator (range includeLower position) (range includeLower position) := fun _ =>
  Except.bind_eq_map fun _ => Except.bind_eq_map fun _ => Except.bind_eq_map fun _ =>
    Except.bind_eq_map fun _ => rfl

theorem base_rejoins (h : RejoinsDeeper operator deeper deeper') :
    Rejoins operator (base other limit deeper) (base operator limit deeper') := by
  intro ts
  cases ts with
  | nil => rfl
  | cons t rest =>
    obtain ⟨kind, offset⟩ := t
    cases kind with
    | leftParen =>
      cases h with
      | reached => rfl
      | more h => exact h.group offset rest
    | leftBracket => exact range_rejoins operator true offset rest
    | leftBrace => exact range_rejoins operator false offset rest
    | _ => rfl

theorem primary_rejoins (h : RejoinsDeeper operator deeper deeper') :
    Rejoins operator (primary other limit deeper) (primary operator limit deeper') := by
  intro ts
  have plain : base operator limit deeper' ts =
      (base other limit deeper ts).map (Prod.map (joinedBy operator) id) := base_rejoins h ts
  cases ts with
  | nil => exact plain
  | cons first rest =>
    obtain ⟨kind, offset⟩ := first
    cases kind with
    | field name =>
      rw [primary, primary]
      split
      · rw [base_rejoins h rest]
        apply Except.map_bind_eq_map
        rintro ⟨tree, after⟩
        exact congrArg (fun t => Except.ok (t, after)) (joinedBy_under operator name tree).symm
      · rfl
    | _ => exact plain

theorem applyTilde_joinedBy (operator : Operator) (tree : Tree) (value : Option Single)
    (position : Nat) :
    applyTilde (joinedBy operator tree) value position =
      (applyTilde tree value position).map (joinedBy operator) := by
  cases tree with
  | atom field a =>
    cases a with
    | term text =>
      cases value with
      | none => rfl
      | some s =>
        simp only [joinedBy, applyTilde]
        split <;> rfl
    | _ => rfl
  | _ => rfl

/-- What is written after an operand is applied to it alike, whatever joins the operands within. -/
theorem suffixes_joinedBy (operator : Operator) (grouped : Bool) (tree : Tree)
    (boost : Option Single) (tilde : Bool) (ts : List Token) :
    suffixes grouped (joinedBy operator tree) boost tilde ts =
      (suffixes grouped tree boost tilde ts).map (Prod.map (joinedBy operator) id) := by
  -- A suffix changes the tree before the next one is read, so the tree varies in the induction.
  induction ts generalizing tree boost tilde with
  | nil => exact congrArg (fun t => Except.ok (t, [])) (joinedBy_boosted operator boost tree).symm
  | cons t rest ih =>
    obtain ⟨kind, offset⟩ := t
    cases kind with
    | caret value =>
      cases value with
      | none => rfl
      | some value =>
        simp only [suffixes]
        split
        · exact ih tree _ tilde
        · rfl
    | tilde value =>
      simp only [suffixes, applyTilde_joinedBy]
      split
      · rfl
      split
      · rfl
      cases applyTilde tree value offset with
      | error e => rfl
      | ok tilded => exact ih tilded boost true
    | _ => exact congrArg (fun t => Except.ok (t, _)) (joinedBy_boosted operator boost tree).symm

theorem signed_rejoins (h : RejoinsDeeper operator deeper deeper') :
    Rejoins operator (signed other limit deeper) (signed operator limit deeper') := by
  intro ts
  have plain : suffixed operator limit deeper' ts =
      (suffixed other limit deeper ts).map (Prod.map (joinedBy operator) id) := by
    rw [suffixed, primary_rejoins h ts]
    exact Except.map_bind_eq_map fun step => suffixes_joinedBy operator _ step.1 none false step.2
  cases ts with
  | nil => exact plain
  | cons first rest =>
    simp only [signed]
    split
    · split
      · cases h with
        | reached => rfl
        | more h =>
          simp only [h rest]
          apply Except.map_bind_eq_map
          rintro ⟨tree, after⟩
          dsimp only
          split <;> rfl
      · rfl
    · exact plain

/-- At every depth the operator changes how operands side by side are joined and nothing else. -/
theorem unary_rejoins (operator other : Operator) (limit depth : Nat) :
    Rejoins operator (unary other limit depth) (unary operator limit depth) := by
  induction depth with
  | zero => exact signed_rejoins .reached
  | succ depth ih => exact signed_rejoins (.more ih)

end Grammar

/-- The tree of tokens under one operator is the tree under another one with the operands that are
written side by side joined by it, and either both operators fail or none does. -/
theorem Tree.ofTokens_joinedBy (tokens : List Token) (field : String) (operator other : Operator)
    (depth : Nat) :
    Tree.ofTokens tokens field operator depth =
      (Tree.ofTokens tokens field other depth).map (Tree.joinedBy operator) := by
  unfold Tree.ofTokens
  split
  · rfl
  · have hunary := Grammar.unary_rejoins operator other depth depth
    rw [hunary.sequence tokens]
    apply Except.map_bind_eq_map
    rintro ⟨tree, rest⟩
    cases rest <;> rfl

/-! ## Parsing -/

/-- Lowering reads the operators of groups from the tree. -/
theorem Query.ofTree_withDefaultOperator (p : Parser) (operator : Operator) (field : String)
    (t : Tree) :
    ofTree p.analyzer (p.withDefaultOperator operator).config field t =
      ofTree p.analyzer p.config field t := by
  have hsame : ∀ field a, Leaf.ofAtom? p.analyzer (p.withDefaultOperator operator).config field a =
      Leaf.ofAtom? p.analyzer p.config field a := by
    intro field a
    cases a <;> rfl
  unfold ofTree
  rw [Operand.ofTree_congr hsame t]
  rfl

namespace Parser

theorem tree_withDefaultOperator (p : Parser) (operator : Operator) (text field : String) :
    (p.withDefaultOperator operator).tree text field =
      (p.tree text field).map (Tree.joinedBy operator) := by
  unfold tree
  cases tokenize text with
  | error e => rfl
  | ok tokens =>
    have hjoined := Tree.ofTokens_joinedBy tokens field operator p.config.defaultOperator
      p.config.maxDepth.toNat
    simp only [withDefaultOperator, hjoined]
    cases Tree.ofTokens tokens field p.config.defaultOperator p.config.maxDepth.toNat <;> rfl

/-- The default operator is the tag of the groups that are written side by side: every token list
has the same fault under either operator, or trees that are equal up to that tag. A text without
such a group has the same query or the same fault under either operator. -/
theorem parse_withDefaultOperator (operator : Operator) :
    (∀ tokens field other depth, Tree.ofTokens tokens field operator depth =
      (Tree.ofTokens tokens field other depth).map (Tree.joinedBy operator)) ∧
    ∀ (p : Parser) (text field : String),
      (∀ t, p.tree text field = .ok t → t.juxtaposes = false) →
      (p.withDefaultOperator operator).parse text field = p.parse text field := by
  refine ⟨fun tokens field other depth => Tree.ofTokens_joinedBy tokens field operator other depth,
    fun p text field h => ?_⟩
  rw [parse, parse, tree_withDefaultOperator]
  cases htree : p.tree text field with
  | error e => rfl
  | ok t =>
    have hjoined := Tree.joinedBy_of_not_juxtaposes operator t (h t htree)
    simp only [Except.map, hjoined]
    exact Query.ofTree_withDefaultOperator p operator field t

/-- Every operator that is written out, with signs and a boost among them, and beside it two terms
alone, which each operator joins in its own way. -/
theorem parse_withDefaultOperator_explicit :
    let p : Parser := ⟨.keyword, {}⟩
    (∃ t q, p.tree "+a AND (b OR -c NOT d)^2" "f" = .ok t ∧ t.juxtaposes = false ∧
      q.render = "+f:a +((f:b (-f:c -f:d))^2.0)" ∧
      p.parse "+a AND (b OR -c NOT d)^2" "f" = .ok q ∧
      (p.withDefaultOperator .and).parse "+a AND (b OR -c NOT d)^2" "f" = .ok q) ∧
    ∃ q q', p.parse "a b" "f" = .ok q ∧ (p.withDefaultOperator .and).parse "a b" "f" = .ok q' ∧
      q.render = "f:a f:b" ∧ q'.render = "+f:a +f:b" := by
  intro p
  constructor
  · obtain ⟨t, htree, hexplicit⟩ : ∃ t, p.tree "+a AND (b OR -c NOT d)^2" "f" = .ok t ∧
        (!t.juxtaposes) = true := Except.exists_eq_ok_of_any (by decide +kernel)
    obtain ⟨q, hparse, hrender⟩ : ∃ q, p.parse "+a AND (b OR -c NOT d)^2" "f" = .ok q ∧
        (q.render == "+f:a +((f:b (-f:c -f:d))^2.0)") = true :=
      Except.exists_eq_ok_of_any (by decide +kernel)
    rw [Bool.not_eq_true'] at hexplicit
    refine ⟨t, q, htree, hexplicit, eq_of_beq hrender, hparse, ?_⟩
    rw [← hparse]
    refine (parse_withDefaultOperator .and).2 p _ "f" fun t' ht' => ?_
    rw [htree] at ht'
    cases ht'
    exact hexplicit
  · obtain ⟨q, hq, hrender⟩ : ∃ q, p.parse "a b" "f" = .ok q ∧ (q.render == "f:a f:b") = true :=
      Except.exists_eq_ok_of_any (by decide +kernel)
    obtain ⟨q', hq', hrender'⟩ : ∃ q', (p.withDefaultOperator .and).parse "a b" "f" = .ok q' ∧
        (q'.render == "+f:a +f:b") = true := Except.exists_eq_ok_of_any (by decide +kernel)
    exact ⟨q, q', hq, hq', eq_of_beq hrender, eq_of_beq hrender'⟩

end Parser

end SearchQuery
