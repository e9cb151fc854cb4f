import SearchQuery.Proofs.Lexer.Escaping
import SearchQuery.Proofs.Parsing

/-!
A text in parentheses behind a field name. Main statement: it means what the text alone means with
that field as the default, except where the text is a single atom with a field name of its own: such
an atom takes the outer field.
-/

namespace SearchQuery

open Grammar (Sequence Unary)
open Lexer (Spells)
open Number (Single)

/-- A text in parentheses behind a field name. -/
def scopedText (field text : String) : String :=
  String.ofList (escapeTerm false field ++ ':' :: '(' :: (text.toList ++ [')']))

/-- The parser with another largest depth. -/
def Parser.withMaxDepth (p : Parser) (depth : UInt64) : Parser :=
  { p with config := { p.config with maxDepth := depth } }

theorem spells_scopedText {field text : String} {ks : List Token.Kind} (named : field ≠ "")
    (h : Spells false text.toList ks) :
    Spells false (scopedText field text).toList
      (.field field :: .leftParen :: (ks ++ [.rightParen])) := by
  have hclose : Spells false [')'] [.rightParen] := .sign rfl .nil
  have hgroup : Spells false ('(' :: (text.toList ++ [')']))
      (.leftParen :: (ks ++ [.rightParen])) := .sign rfl (h.append rfl hclose)
  rw [scopedText, String.toList_ofList]
  exact .fieldName named hgroup

/-- One level further in, a text in parentheses behind a field name is the tree of the text under
that field. -/
theorem Parser.Reads.scoped {p : Parser} {text field : String} {t : Tree} {depth : UInt64}
    (named : field ≠ "") (deeper : depth.toNat = p.config.maxDepth.toNat + 1)
    (h : p.Reads text t) :
    (p.withMaxDepth depth).Reads (scopedText field text) (t.under field) := by
  obtain ⟨ks, hspells, hread⟩ := h
  refine ⟨_, spells_scopedText named hspells, ?_⟩
  have hprimary : Grammar.Primary p.config.defaultOperator
      (Unary p.config.defaultOperator p.config.maxDepth.toNat)
      (.field field :: .leftParen :: (ks ++ [.rightParen])) (t.under field) := .under (.group hread)
  have hsuffixed := Grammar.Suffixed.intro hprimary .nil
  rw [List.append_nil] at hsuffixed
  have hunary : Unary p.config.defaultOperator depth.toNat
      (.field field :: .leftParen :: (ks ++ [.rightParen])) (t.under field) := by
    rw [deeper]
    exact .plain hsuffixed
  exact .single (.single (.single (.single hunary)))

/-! ## Lowering -/

mutual

/-- Lowering depends on the settings through the leaves of atoms only. -/
theorem Operand.ofTree_congr {analyzer : Analyzer} {config config' : Config} {field : String}
    (same : ∀ field a,
      Leaf.ofAtom? analyzer config field a = Leaf.ofAtom? analyzer config' field a) :
    (t : Tree) → ofTree analyzer config field t = ofTree analyzer config' field t
  | .atom own a => by rw [ofTree, ofTree, same]
  | .scope inner t => by rw [ofTree, ofTree, ofTree_congr same t]
  | .boost value t => by rw [ofTree, ofTree, ofTree_congr same t]
  | .required t => by rw [ofTree, ofTree, ofTree_congr same t]
  | .prohibited t => by rw [ofTree, ofTree, ofTree_congr same t]
  | .group junction ts => by rw [ofTree, ofTree, ofTrees_congr same ts]

theorem Operand.ofTrees_congr {analyzer : Analyzer} {config config' : Config} {field : String}
    (same : ∀ field a,
      Leaf.ofAtom? analyzer config field a = Leaf.ofAtom? analyzer config' field a) :
    (ts : List Tree) → ofTrees analyzer config field ts = ofTrees analyzer config' field ts
  | [] => rfl
  | t :: ts => by rw [ofTrees, ofTrees, ofTree_congr same t, ofTrees_congr same ts]

end

/-- The largest depth plays no part after the tree is read. -/
theorem Query.ofTree_withMaxDepth (p : Parser) (depth : UInt64) (field : String) (t : Tree) :
    ofTree p.analyzer (p.withMaxDepth depth).config field t =
      ofTree p.analyzer p.config field t := by
  have hsame : ∀ field a, Leaf.ofAtom? p.analyzer (p.withMaxDepth depth).config field a =
      Leaf.ofAtom? p.analyzer p.config field a := by
    intro field a
    cases a <;> rfl
  unfold ofTree
  rw [Operand.ofTree_congr hsame t]
  rfl

/-- The query of a leaf that stands alone, or the empty query. -/
def Query.ofLeaf? (leaf : Option Leaf) : Query := (leaf.map (Query.leaf · Single.one)).getD .empty

theorem Query.ofLeaf?_injective {leaf leaf' : Option Leaf} (h : ofLeaf? leaf = ofLeaf? leaf') :
    leaf = leaf' := by
  cases leaf with
  | none =>
    cases leaf' with
    | none => rfl
    | some l' => cases h
  | some l =>
    cases leaf' with
    | none => cases h
    | some l' =>
      cases h
      rfl

theorem Query.ofTree_atom (analyzer : Analyzer) (config : Config) (field : String)
    (own : Option String) (a : Atom) :
    ofTree analyzer config field (.atom own a) =
      (Leaf.ofAtom? analyzer config (own.getD field) a).map ofLeaf? := by
  unfold ofTree
  rw [Operand.ofTree]
  cases Leaf.ofAtom? analyzer config (own.getD field) a with
  | error e => rfl
  | ok leaf =>
    cases leaf with
    | none => exact if_pos (Nat.zero_le _)
    | some l => exact if_pos (Nat.zero_le _)

theorem Leaf.field?_ofTerms? {field : String} {slop : UInt32} {terms : List String} {l : Leaf}
    (h : ofTerms? field slop terms = some l) : l.field? = some field := by
  match terms with
  | [] => cases h
  | [text] =>
    cases h
    rfl
  | text :: text' :: rest =>
    cases h
    rfl

/-- A leaf looks at the field of its atom. Only a leaf that every document passes looks at none,
and its atom stands in every field. -/
theorem Leaf.field?_ofAtom? {analyzer : Analyzer} {config : Config} {field : String} {a : Atom}
    {l : Leaf} (h : ofAtom? analyzer config field a = .ok (some l)) :
    l.field?.getD "*" = field := by
  cases a with
  | term text =>
    obtain ⟨terms, -, hl⟩ := Except.map_eq_ok_iff.mp h
    rw [field?_ofTerms? hl, Option.getD_some]
  | phrase text slop =>
    obtain ⟨terms, -, hl⟩ := Except.map_eq_ok_iff.mp h
    rw [field?_ofTerms? hl, Option.getD_some]
  | wildcard pattern =>
    simp only [ofAtom?, Except.ok.injEq, Option.some.injEq] at h
    subst h
    split
    · rename_i every
      exact every.1.symm
    · rfl
  | fuzzy text similarity =>
    cases h
    rfl
  | range lower upper includeLower includeUpper =>
    cases h
    rfl

/-- In two fields an atom is the same query exactly if the fields are one or analysis leaves nothing
of it in either. -/
theorem Query.ofTree_atom_eq_iff {analyzer : Analyzer} {config : Config} {outer outer' : String}
    {field own : String} {a : Atom} {q : Query}
    (h : ofTree analyzer config outer (.atom (some own) a) = .ok q) :
    ofTree analyzer config outer' (.atom (some field) a) = .ok q ↔
      own = field ∨ Leaf.ofAtom? analyzer config field a = .ok none ∧
        Leaf.ofAtom? analyzer config own a = .ok none := by
  rw [ofTree_atom, Option.getD_some] at h ⊢
  obtain ⟨leaf, hleaf, rfl⟩ := Except.map_eq_ok_iff.mp h
  rw [Except.map_eq_ok_iff, hleaf]
  constructor
  · rintro ⟨leaf', hleaf', heq⟩
    have hsame : leaf' = leaf := ofLeaf?_injective heq
    subst hsame
    cases leaf' with
    | none => exact .inr ⟨hleaf', rfl⟩
    | some l => exact .inl ((Leaf.field?_ofAtom? hleaf).symm.trans (Leaf.field?_ofAtom? hleaf'))
  · rintro (rfl | ⟨hnone, hown⟩)
    · exact ⟨leaf, hleaf, rfl⟩
    · cases hown
      exact ⟨none, hnone, rfl⟩

/-- Under a field a tree keeps its meaning, unless it is an atom that names another field. -/
theorem Query.ofTree_under_iff {analyzer : Analyzer} {config : Config} {outer field : String}
    {t : Tree} {q : Query} (h : ofTree analyzer config field t = .ok q) :
    ofTree analyzer config outer (t.under field) = .ok q ↔
      ∀ own a, t = .atom (some own) a → own = field ∨
        Leaf.ofAtom? analyzer config field a = .ok none ∧
          Leaf.ofAtom? analyzer config own a = .ok none := by
  by_cases hatom : ∃ own a, t = .atom (some own) a
  · obtain ⟨own, a, rfl⟩ := hatom
    rw [Tree.under, ofTree_atom_eq_iff h]
    constructor
    · rintro hfields own' a' ⟨⟩
      exact hfields
    · intro hfields
      exact hfields own a rfl
  · refine iff_of_true ?_ fun own a heq => absurd ⟨own, a, heq⟩ hatom
    cases t with
    | atom own a =>
      cases own with
      | none => exact h
      | some own => exact absurd ⟨own, a, rfl⟩ hatom
    | scope inner t => exact h
    | boost value t => exact h
    | required t => exact h
    | prohibited t => exact h
    | group junction ts => exact h

/-! ## Texts -/

namespace Parser

/-- A text in parentheses behind a field name means what the text alone means with that field as the
default, unless the text is an atom that names another field and of which analysis leaves
something: that atom takes the outer field. -/
theorem parse_scopedText_iff {p : Parser} {text field : String} {depth : UInt64} {q : Query}
    (other : String) (named : field ≠ "") (deeper : depth.toNat = p.config.maxDepth.toNat + 1)
    (parsed : p.parse text field = .ok q) :
    ∃ t, p.tree text field = .ok (.scope field t) ∧
      ((p.withMaxDepth depth).parse (scopedText field text) other = .ok q ↔
        ∀ own a, t = .atom (some own) a → own = field ∨
          Leaf.ofAtom? p.analyzer p.config field a = .ok none ∧
            Leaf.ofAtom? p.analyzer p.config own a = .ok none) := by
  obtain ⟨t, u, hread, -⟩ := parse_eq_ok_iff.mp parsed
  have htree : p.tree text field = .ok (.scope field t) := tree_eq_ok_iff.mpr ⟨t, rfl, hread⟩
  have hscoped : (p.withMaxDepth depth).tree (scopedText field text) other =
      .ok (.scope other (t.under field)) :=
    tree_eq_ok_iff.mpr ⟨t.under field, rfl, hread.scoped named deeper⟩
  have hscopedParse : (p.withMaxDepth depth).parse (scopedText field text) other =
      Query.ofTree p.analyzer p.config other (t.under field) := by
    rw [parse, hscoped]
    exact Query.ofTree_withMaxDepth p depth other _
  rw [parse, htree] at parsed
  rw [hscopedParse]
  exact ⟨t, htree, Query.ofTree_under_iff parsed⟩

/-- The atom of a text and the field that it names, if the text is one atom that names a field. -/
def namedAtom? : Tree → Option (String × Atom)
  | .scope _ (.atom (some own) a) => some (own, a)
  | _ => none

theorem namedAtom?_eq_some_iff {outer own : String} {t : Tree} {a : Atom} :
    namedAtom? (.scope outer t) = some (own, a) ↔ t = .atom (some own) a := by
  constructor
  · intro h
    unfold namedAtom? at h
    split at h
    · rename_i heq
      cases heq
      cases h
      rfl
    · cases h
  · rintro rfl
    rfl

theorem parse_scopedText_iff_named_term :
    "F" ≠ "" ∧ (65 : UInt64).toNat = ({} : Config).maxDepth.toNat + 1 ∧
      (∃ q, parse ⟨.keyword, {}⟩ "G:x" "F" = .ok q ∧ q.render = "G:x" ∧
        (withMaxDepth ⟨.keyword, {}⟩ 65).parse (scopedText "F" "G:x") "g" ≠ .ok q) ∧
      ∃ q, parse ⟨.keyword, {}⟩ "+G:x y" "F" = .ok q ∧ q.render = "+G:x F:y" ∧
        (withMaxDepth ⟨.keyword, {}⟩ 65).parse (scopedText "F" "+G:x y") "g" = .ok q := by
  have hnamed : "F" ≠ "" := by decide
  have hdeeper : (65 : UInt64).toNat = ({} : Config).maxDepth.toNat + 1 := by decide
  refine ⟨hnamed, hdeeper, ?_, ?_⟩
  · obtain ⟨q, hparse, hrender⟩ : ∃ q, parse ⟨.keyword, {}⟩ "G:x" "F" = .ok q ∧
        (q.render == "G:x") = true := Except.exists_eq_ok_of_any (by decide +kernel)
    obtain ⟨whole, hwhole, hterm⟩ : ∃ whole, tree ⟨.keyword, {}⟩ "G:x" "F" = .ok whole ∧
        (namedAtom? whole == some ("G", .term "x")) = true :=
      Except.exists_eq_ok_of_any (by decide +kernel)
    obtain ⟨t, htree, hiff⟩ := parse_scopedText_iff "g" hnamed hdeeper hparse
    rw [htree] at hwhole
    cases hwhole
    refine ⟨q, hparse, eq_of_beq hrender, fun hscoped => ?_⟩
    have hatom : t = .atom (some "G") (.term "x") := namedAtom?_eq_some_iff.mp (eq_of_beq hterm)
    rcases hiff.mp hscoped "G" (.term "x") hatom with hfield | ⟨hnone, -⟩
    · exact absurd hfield (by decide)
    · cases hnone
  · obtain ⟨q, hparse, hrender⟩ : ∃ q, parse ⟨.keyword, {}⟩ "+G:x y" "F" = .ok q ∧
        (q.render == "+G:x F:y") = true := Except.exists_eq_ok_of_any (by decide +kernel)
    obtain ⟨whole, hwhole, hseveral⟩ : ∃ whole, tree ⟨.keyword, {}⟩ "+G:x y" "F" = .ok whole ∧
        (namedAtom? whole == none) = true := Except.exists_eq_ok_of_any (by decide +kernel)
    obtain ⟨t, htree, hiff⟩ := parse_scopedText_iff "g" hnamed hdeeper hparse
    rw [htree] at hwhole
    cases hwhole
    refine ⟨q, hparse, eq_of_beq hrender, hiff.mpr ?_⟩
    rintro own a rfl
    cases hseveral

end Parser

end SearchQuery
