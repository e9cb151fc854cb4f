import SearchQuery.Proofs.Canonical.Vocabulary
import SearchQuery.Proofs.Grammar.Operands
import SearchQuery.Proofs.Number.Words

/-!
What the canonical text of a query is read as. Every piece of the text is cut into token kinds that
the grammar of its level takes to the tree of that piece, and pieces are put together as the text
is. Main statement: the text of a query is a sequence for the tree of that query, with as many
levels left as its parentheses and signs need.
-/

namespace SearchQuery

attribute [local instance (high)] instPowNat

open Grammar
open Lexer (NumberSign Spells separates isWild isPattern isBound boundKind rereadBound phraseText)
open Number (Single)
open Text (isBlank)

/-- A text is cut into token kinds of a language that do not start with a negation. -/
def Spelled {α : Type} (language : List Token.Kind → α → Prop) (cs : List Char) (value : α) :
    Prop :=
  ∃ ks, Spells false cs ks ∧ language ks value ∧ ks.head? ≠ some .not

theorem Spelled.mono {α β : Type} {language : List Token.Kind → α → Prop}
    {language' : List Token.Kind → β → Prop} {cs : List Char} {value : α} {value' : β}
    (h : Spelled language cs value) (hmono : ∀ ks, language ks value → language' ks value') :
    Spelled language' cs value' := by
  obtain ⟨ks, hspells, hread, hhead⟩ := h
  exact ⟨ks, hspells, hmono ks hread, hhead⟩

/-! ## Suffixes -/

/-- The text of a number is read back behind its sign. -/
theorem spells_canonical {c : Char} {make : Option Single → Token.Kind} {value : Single}
    (sign : NumberSign c make) (h : value.isUnsigned = true) :
    Spells false (c :: value.canonical) [make (some value)] := by
  obtain ⟨m, rfl⟩ := Single.exists_of_isUnsigned h
  obtain ⟨d, hread, hvalue⟩ := Single.read?_canonical m
  have hnumber := Spells.numbered sign (Single.isNumeral_canonical m) hread (by rw [hvalue]; rfl)
  rwa [hvalue] at hnumber

/-- The digits of a slop are a number whose whole part is the slop that comes back. -/
theorem spells_digits (slop : UInt32) :
    ∃ value : Single, value.toWord = Single.rereadWord slop ∧
      Spells false ('~' :: Nat.toDigits 10 slop.toNat) [.tilde (some value)] := by
  have hread := Number.Decimal.read?_of_digits (Number.Decimal.all_isDigit_toDigits slop.toNat)
    Nat.toDigits_ne_nil
  rw [Nat.ofDigitChars_ten_toDigits] at hread
  obtain ⟨hfinite, hword⟩ := Single.toWord_ofDecimal_toNat slop
  exact ⟨_, hword, Spells.numbered .tilde (Number.isNumeral_toDigits _) hread hfinite⟩

theorem separates_boostSuffix (boost : Single) : separates (boostSuffix boost) = true := by
  unfold boostSuffix
  split <;> rfl

/-- The boost after an operand. -/
theorem spelled_boostSuffix {boost : Single} (h : boost.isUnsigned = true) (grouped tilde : Bool)
    (tree : Tree) :
    ∃ ks, Spells false (boostSuffix boost) ks ∧
      Suffixes grouped tree none tilde ks (tree.boostedBy boost) := by
  unfold boostSuffix Tree.boostedBy
  by_cases hone : boost.numEq Single.one = true
  · rw [if_pos hone, if_pos hone]
    exact ⟨[], .nil, .nil⟩
  · rw [if_neg hone, if_neg hone]
    have hproduct : ((none : Option Single).getD Single.one).mul boost = boost :=
      Single.one_mul (Single.isFinite_of_isUnsigned h)
    refine ⟨_, spells_canonical .caret h, .caret ?_ ?_⟩
    · rw [hproduct]
      exact Single.isFinite_of_isUnsigned h
    · rw [hproduct]
      exact .nil

/-- An operand and the boost after it. -/
theorem spelled_suffixed {deeper : Language} {cs : List Char} {boost : Single} {tree : Tree}
    (hboost : boost.isUnsigned = true) (h : Spelled (Primary .or deeper) cs tree) :
    Spelled (Suffixed .or deeper) (cs ++ boostSuffix boost) (tree.boostedBy boost) := by
  obtain ⟨ks, hspells, hprimary, hhead⟩ := h
  obtain ⟨ks', hspells', hsuffixes⟩ := spelled_boostSuffix hboost (opensGroup ks) false tree
  refine ⟨ks ++ ks', hspells.append (separates_boostSuffix boost) hspells',
    .intro hprimary hsuffixes, ?_⟩
  obtain ⟨k, rest, rfl, -⟩ := hprimary.starts
  simpa using hhead

/-- An operand with a `~` and the boost after it. -/
theorem spelled_tilded {deeper : Language} {cs ds : List Char} {boost : Single} {tree tilded : Tree}
    {value : Option Single} (hboost : boost.isUnsigned = true)
    (h : Spelled (fun ks t => Primary .or deeper ks t ∧ opensGroup ks = false) cs tree)
    (hsep : separates ds = true) (htilde : Spells false ds [.tilde value])
    (happlied : Tilded tree value tilded) :
    Spelled (Suffixed .or deeper) (cs ++ ds ++ boostSuffix boost) (tilded.boostedBy boost) := by
  obtain ⟨ks, hspells, ⟨hprimary, hopens⟩, hhead⟩ := h
  obtain ⟨ks', hspells', hsuffixes⟩ := spelled_boostSuffix hboost (opensGroup ks) true tilded
  refine ⟨ks ++ .tilde value :: ks', ?_, .intro hprimary (.tilde hopens happlied hsuffixes), ?_⟩
  · have := (hspells.append hsep htilde).append (separates_boostSuffix boost) hspells'
    simpa using this
  · obtain ⟨k, rest, rfl, -⟩ := hprimary.starts
    simpa using hhead

/-! ## Leaves -/

/-- An atom after the name of its field. -/
theorem spelled_atom {deeper : Language} {name : String} {cs : List Char} {k : Token.Kind}
    {ks : List Token.Kind} {a : Atom} (field_ne : name ≠ "") (h : Spells false cs (k :: ks))
    (hbase : Base .or deeper (k :: ks) (.atom none a)) (hk : k ≠ .leftParen) :
    Spelled (fun ks t => Primary .or deeper ks t ∧ opensGroup ks = false)
      (escapeTerm false name ++ ':' :: cs) (.atom (some name) a) := by
  refine ⟨_, .fieldName field_ne h, ⟨.under hbase, ?_⟩, by simp⟩
  simpa [opensGroup] using hk

theorem any_isWild_eq_false {text : String} (h : ∀ c ∈ text.toList, isWild c = false) :
    text.toList.any isWild = false := by
  rw [List.any_eq_false]
  intro c hc
  simp [h c hc]

/-- A term after the name of its field. -/
theorem spelled_term {deeper : Language} {field text : String} (field_ne : field ≠ "")
    (text_ne : text ≠ "") (word : ∀ c ∈ text.toList, isWild c = false) :
    Spelled (fun ks t => Primary .or deeper ks t ∧ opensGroup ks = false)
      (escapeTerm false field ++ ':' :: escapeTerm false text)
      (.atom (some field) (.term text)) := by
  have hopen : text ≠ "*" := by
    rintro rfl
    exact absurd (word '*' (by decide)) (by decide)
  exact spelled_atom field_ne (.term text_ne (any_isWild_eq_false word)) (.term hopen) (by simp)

/-- A phrase after the name of its field. -/
theorem spelled_phrase {deeper : Language} {field : String} (terms : List String)
    (field_ne : field ≠ "") :
    Spelled (fun ks t => Primary .or deeper ks t ∧ opensGroup ks = false)
      (escapeTerm false field ++ ':' :: '"' :: ([' '].intercalate (terms.map escapePhraseTerm) ++
        ['"']))
      (.atom (some field) (.phrase (phraseText terms) none)) :=
  spelled_atom field_ne (.phrase terms) .phrase (by simp)

/-- A bound of a range before what follows it. -/
theorem spells_bound {bound : Option String} {tail : List Char} {ks : List Token.Kind}
    (h : bound ≠ some "") (hend : Lexer.endsWordAt true tail = true)
    (htail : Spells true tail ks) :
    ∃ k, Spells true ((bound.map escapeBound).getD ['*'] ++ tail) (k :: ks) ∧
      Bound k (bound.map rereadBound) := by
  cases bound with
  | none =>
    have hwrites : Lexer.Writes (Lexer.endsWord true) ['*'] [(false, '*')] :=
      .plain (by decide) (by decide) .nil
    exact ⟨_, .bound hwrites (by simp) hend htail, .opened⟩
  | some text =>
    have hne : text ≠ "" := fun heq => h (congrArg some heq)
    obtain ⟨us, hwrites, hkind⟩ := Lexer.exists_writes_escapeBound text
    refine ⟨_, .bound hwrites (Lexer.escapeBound_ne_nil hne) hend htail, ?_⟩
    rw [hkind, boundKind]
    split
    · rename_i hwild
      exact .wildcard hwild.1
    · exact .term

/-- A range after the name of its field, with the bounds that come back. -/
theorem spelled_range {deeper : Language} {field : String} {lower upper : Option String}
    (includeLower includeUpper : Bool) (field_ne : field ≠ "") (lower_ne : lower ≠ some "")
    (upper_ne : upper ≠ some "") :
    Spelled (fun ks t => Primary .or deeper ks t ∧ opensGroup ks = false)
      (Leaf.range field lower upper includeLower includeUpper).spelling
      (.atom (some field)
        (.range (lower.map rereadBound) (upper.map rereadBound) includeLower includeUpper)) := by
  have hclosing : Spells true [if includeUpper then ']' else '}'] [closing includeUpper] :=
    .closing .nil
  obtain ⟨hi, hupper, habove⟩ := spells_bound upper_ne
    (by cases includeUpper <;> rfl) hclosing
  have hto : Lexer.Writes (Lexer.endsWord true) "TO".toList [(false, 'T'), (false, 'O')] :=
    .plain (by decide) (by decide) (.plain (by decide) (by decide) .nil)
  have hmiddle := Spells.bound hto (by decide) rfl (hupper.blank (by decide : isBlank ' ' = true))
  obtain ⟨lo, hlower, hbelow⟩ := spells_bound lower_ne rfl
    (hmiddle.blank (by decide : isBlank ' ' = true))
  have hopening : Spells false ((if includeLower then '[' else '{') ::
      ((lower.map escapeBound).getD ['*'] ++ ' ' :: ("TO".toList ++ ' ' ::
        ((upper.map escapeBound).getD ['*'] ++ [if includeUpper then ']' else '}']))))
      (opening includeLower :: lo :: .rangeTo :: hi :: [closing includeUpper]) := by
    cases includeLower with
    | true => exact .sign rfl hlower
    | false => exact .sign rfl hlower
  have hatom : Spelled (fun ks t => Primary .or deeper ks t ∧ opensGroup ks = false) _
      (.atom (some field)
        (.range (lower.map rereadBound) (upper.map rereadBound) includeLower includeUpper)) :=
    spelled_atom field_ne hopening (.range hbelow habove)
      (by cases includeLower <;> simp [opening])
  simpa [Leaf.spelling] using hatom

/-- A bound that range mode can spell comes back as it is. -/
theorem map_rereadBound_of_isBound {bound : Option String}
    (h : ∀ text, bound = some text → isBound text = true) :
    bound ≠ some "" ∧ bound.map rereadBound = bound := by
  cases bound with
  | none => exact ⟨by simp, rfl⟩
  | some text =>
    obtain ⟨hne, hsame⟩ := Lexer.rereadBound_of_isBound (h text rfl)
    exact ⟨by simpa using hne, congrArg some hsame⟩

theorem spelled_primary {deeper : Language} {cs : List Char} {tree : Tree}
    (h : Spelled (fun ks t => Primary .or deeper ks t ∧ opensGroup ks = false) cs tree) :
    Spelled (Primary .or deeper) cs tree :=
  h.mono fun _ => And.left

/-- A phrase with the slop that its digits come back as, and its boost. -/
theorem spelled_sloppy {field : String} (terms : List String) (slop : UInt32)
    (field_ne : field ≠ "") {boost : Single} (hboost : boost.isUnsigned = true)
    (deeper : Language) :
    Spelled (Suffixed .or deeper) ((Leaf.phrase field terms slop).spelling ++ boostSuffix boost)
      (Tree.boostedBy boost (.atom (some field) (.phrase (phraseText terms)
        (if slop = 0 then none else some (Single.rereadWord slop))))) := by
  have hphrase : Spelled (fun ks t => Primary .or deeper ks t ∧ opensGroup ks = false) _
      (.atom (some field) (.phrase (phraseText terms) none)) := spelled_phrase terms field_ne
  by_cases hslop : slop = 0
  · have hsuffixed := spelled_suffixed hboost (spelled_primary hphrase)
    simpa [Leaf.spelling, hslop] using hsuffixed
  · obtain ⟨value, hvalue, htilde⟩ := spells_digits slop
    have htilded := spelled_tilded hboost hphrase rfl htilde .slop
    simpa [Leaf.spelling, hslop, hvalue] using htilded

/-- A leaf and its boost. -/
theorem Leaf.Renderable.spelled {config : Config} {l : Leaf} (h : l.Renderable config)
    {boost : Single} (hboost : boost.isUnsigned = true) (deeper : Language) :
    Spelled (Suffixed .or deeper) (l.spelling ++ boostSuffix boost) (l.toTree.boostedBy boost) := by
  cases h with
  | term field_ne text_ne word =>
    exact spelled_suffixed hboost
      (spelled_primary (spelled_term field_ne text_ne fun c hc => (word c hc).2))
  | @phrase field terms slop field_ne several words small silent =>
    have hkept : Single.rereadWord slop = slop := by
      have hfew := Number.Format.single.significant_mul_two_pow 0 small
      rw [Nat.pow_zero, Nat.mul_one] at hfew
      exact (Single.rereadWord_eq_self_iff slop).mpr (.inl hfew)
    have hsloppy := spelled_sloppy terms slop field_ne hboost deeper
    rwa [hkept] at hsloppy
  | @fuzzy field text similarity field_ne text_ne word unsigned interval kept =>
    have hterm : Spelled (fun ks t => Primary .or deeper ks t ∧ opensGroup ks = false) _
        (.atom (some field) (.term text)) := spelled_term field_ne text_ne word
    have hinterval : ∀ s : Single, some similarity = some s → s.inUnitInterval = true := by
      rintro s ⟨⟩
      exact interval
    have htilded :=
      spelled_tilded hboost hterm rfl (spells_canonical .tilde unsigned) (.fuzzy hinterval)
    simpa [Leaf.spelling, Leaf.toTree] using htilded
  | wildcard field_ne valid single kept =>
    exact spelled_suffixed hboost
      (spelled_primary (spelled_atom field_ne (.pattern valid) .wildcard (by simp)))
  | @range field lower upper includeLower includeUpper field_ne bounds =>
    obtain ⟨lower_ne, hlower⟩ := map_rereadBound_of_isBound fun text ht => (bounds text (.inl ht)).1
    obtain ⟨upper_ne, hupper⟩ := map_rereadBound_of_isBound fun text ht => (bounds text (.inr ht)).1
    have hrange : Spelled (fun ks t => Primary .or deeper ks t ∧ opensGroup ks = false) _ _ :=
      spelled_range includeLower includeUpper field_ne lower_ne upper_ne
    rw [hlower, hupper] at hrange
    exact spelled_suffixed hboost (spelled_primary hrange)
  | matchAll =>
    have hstar : Spells false (escapeTerm true "*") [.wildcard "*"] := .pattern (by decide)
    exact spelled_suffixed hboost
      (spelled_primary (spelled_atom (by decide : "*" ≠ "") hstar .wildcard (by simp)))

/-! ## Clauses and queries -/

/-- A group and its boost. -/
theorem spelled_group {depth : Nat} {cs : List Char} {boost : Single} {tree : Tree}
    (hboost : boost.isUnsigned = true)
    (h : Spelled (Sequence .or (Unary .or depth)) cs tree) :
    Spelled (Suffixed .or (Unary .or depth)) ('(' :: cs ++ ')' :: boostSuffix boost)
      (tree.boostedBy boost) := by
  obtain ⟨ks, hspells, hread, -⟩ := h
  have hclose : Spells false [')'] [.rightParen] := .sign rfl .nil
  have hgroup : Spelled (Primary .or (Unary .or depth)) ('(' :: (cs ++ [')'])) tree :=
    ⟨_, .sign rfl (hspells.append rfl hclose), .plain (.group hread), by simp⟩
  have hsuffixed := spelled_suffixed hboost hgroup
  simpa using hsuffixed

/-- A sign and the operand after it. -/
theorem spelled_mark {depth : Nat} {cs : List Char} {tree : Tree} (occur : Occur)
    (h : Spelled (Unary .or depth) cs tree) :
    Spelled (Unary .or (depth + occur.sign.length)) (occur.sign ++ cs) (occur.mark tree) := by
  cases occur with
  | must =>
    obtain ⟨ks, hspells, hread, -⟩ := h
    exact ⟨_, .sign rfl hspells, Signed.required hread, by simp⟩
  | should => exact h
  | mustNot =>
    obtain ⟨ks, hspells, hread, -⟩ := h
    exact ⟨_, .sign rfl hspells, Signed.prohibited (.inl rfl) hread, by simp⟩

namespace Query

/-- The text of one clause. -/
def clauseSpelling (c : Clause Query) : List Char :=
  c.occur.sign ++
    if c.query.isBoolean then '(' :: spelling c.query ++ [')'] else spelling c.query

theorem clauseSpellings_eq (clauses : List (Clause Query)) :
    clauseSpellings clauses = clauses.map clauseSpelling := by
  induction clauses with
  | nil => rfl
  | cons c rest ih => rw [clauseSpellings, ih, List.map_cons]; rfl

theorem spelling_singleton (c : Clause Query) : (ofClauses [c]).spelling = clauseSpelling c := by
  rw [ofClauses, spelling, if_pos (by decide), clauseSpellings_eq]
  exact List.intercalate_singleton

theorem clauseTrees_eq (clauses : List (Clause Query)) :
    clauseTrees clauses = clauses.map fun c => c.occur.mark (toTree c.query) := by
  induction clauses with
  | nil => rfl
  | cons c rest ih => rw [clauseTrees, ih, List.map_cons]

/-- How deep parentheses and signs nest in the text of one clause. -/
def nestingOf (c : Clause Query) : Nat :=
  c.occur.sign.length + (if c.query.isBoolean then 1 else 0) + nesting c.query

theorem nestingOf_le {clauses : List (Clause Query)} {c : Clause Query} (h : c ∈ clauses) :
    nestingOf c ≤ clauseNesting clauses := by
  induction clauses with
  | nil => cases h
  | cons c' rest ih =>
    rw [clauseNesting]
    rcases List.mem_cons.mp h with rfl | h
    · exact Nat.le_max_left _ _
    · exact Nat.le_trans (ih h) (Nat.le_max_right _ _)

theorem nesting_ofClauses (clauses : List (Clause Query)) :
    (ofClauses clauses).nesting = clauseNesting clauses := by
  rw [ofClauses, nesting, if_pos (by decide), Nat.zero_add]

theorem nesting_singleton (c : Clause Query) : (ofClauses [c]).nesting = nestingOf c := by
  rw [nesting_ofClauses, clauseNesting, clauseNesting, Nat.max_zero]
  rfl

/-- A query is a sequence for its tree, with enough levels left. -/
def Readable (q : Query) : Prop :=
  ∀ depth, q.nesting ≤ depth → Spelled (Sequence .or (Unary .or depth)) q.spelling q.toTree

theorem either_of_unary {depth : Nat} {ks : List Token.Kind} {t : Tree}
    (h : Unary .or depth ks t) : Either (Unary .or depth) ks t :=
  .single (.single (.single h))

theorem unary_of_suffixed {depth : Nat} {cs : List Char} {tree : Tree}
    (h : ∀ deeper, Spelled (Suffixed .or deeper) cs tree) : Spelled (Unary .or depth) cs tree := by
  cases depth with
  | zero => exact (h _).mono fun _ => Signed.plain
  | succ depth => exact (h _).mono fun _ => Signed.plain

/-- A sequence in parentheses is an operand one level further in. -/
theorem spelled_parenthesized {depth : Nat} {cs : List Char} {tree : Tree}
    (h : Spelled (Sequence .or (Unary .or depth)) cs tree) :
    Spelled (Unary .or (depth + 1)) ('(' :: cs ++ [')']) tree := by
  have hgroup := spelled_group (by decide : Single.one.isUnsigned = true) h
  exact hgroup.mono fun _ => Signed.plain

/-- The text of a clause, if its query can be read. -/
theorem spelled_clauseSpelling {config : Config} {c : Clause Query} {depth : Nat}
    (h : c.query.Renderable config) (hread : c.query.Readable) (hdepth : nestingOf c ≤ depth) :
    Spelled (Unary .or depth) (clauseSpelling c) (c.occur.mark c.query.toTree) := by
  obtain ⟨occur, query⟩ := c
  obtain ⟨left, rfl⟩ : ∃ left, depth = left + occur.sign.length :=
    ⟨depth - occur.sign.length, by simp only [nestingOf] at hdepth; omega⟩
  apply spelled_mark
  cases h with
  | leaf vocabulary unsigned =>
    exact unary_of_suffixed fun deeper => vocabulary.spelled unsigned deeper
  | @boolean clauses boost several all unsigned =>
    simp only [nestingOf, isBoolean, ↓reduceIte] at hdepth
    obtain ⟨inner, rfl⟩ : ∃ inner, left = inner + 1 := ⟨left - 1, by omega⟩
    have hinner : (boolean clauses boost).nesting ≤ inner := by omega
    exact spelled_parenthesized (hread inner hinner)

/-- Operands with blanks between them. -/
theorem spelled_elements {α : Type} {depth : Nat} {text : α → List Char} {tree : α → Tree}
    {as : List α} (nonempty : as ≠ [])
    (h : ∀ a ∈ as, Spelled (Unary .or depth) (text a) (tree a)) :
    Spelled (Elements (Either (Unary .or depth))) ([' '].intercalate (as.map text))
      (as.map tree) := by
  induction as with
  | nil => exact absurd rfl nonempty
  | cons a rest ih =>
    rw [List.forall_mem_cons] at h
    cases rest with
    | nil =>
      rw [List.map_singleton, List.map_singleton, List.intercalate_singleton]
      exact h.1.mono fun _ h => .single (either_of_unary h)
    | cons a' rest =>
      obtain ⟨ks, hspells, hfirst, hhead⟩ := h.1
      obtain ⟨ks', hspells', hothers, hhead'⟩ := ih (by simp) h.2
      refine ⟨ks ++ ks', ?_, .cons (either_of_unary hfirst) hothers hhead', ?_⟩
      · rw [List.map_cons, List.map_cons, List.intercalate_cons_cons, List.append_assoc]
        exact hspells.append rfl (hspells'.blank (by decide : isBlank ' ' = true))
      · obtain ⟨k, rest', rfl, -⟩ := (reads_unary .or depth depth).starts hfirst
        simpa using hhead

/-- The text of several clauses, whatever each of them is read as. -/
theorem spelled_clauses {clauses : List (Clause Query)} {depth : Nat} {tree : Clause Query → Tree}
    (several : 2 ≤ clauses.length)
    (h : ∀ c ∈ clauses, Spelled (Unary .or depth) (clauseSpelling c) (tree c)) :
    Spelled (Sequence .or (Unary .or depth)) ([' '].intercalate (clauseSpellings clauses))
      (.group (.implicit .or) (clauses.map tree)) := by
  obtain ⟨c, c', rest, rfl⟩ : ∃ c c' rest, clauses = c :: c' :: rest := by
    match clauses, several with
    | c :: c' :: rest, _ => exact ⟨c, c', rest, rfl⟩
  rw [clauseSpellings_eq]
  exact (spelled_elements (by simp) h).mono fun _ => .several

/-- The text of every query of the vocabulary can be read. -/
theorem Renderable.readable {config : Config} {q : Query} (h : q.Renderable config) :
    q.Readable := by
  induction h with
  | leaf vocabulary unsigned =>
    intro depth _
    have hunary : Spelled (Unary .or depth) _ _ :=
      unary_of_suffixed fun deeper => vocabulary.spelled unsigned deeper
    exact hunary.mono fun _ h => .single (either_of_unary h)
  | @boolean clauses boost several all unsigned ih =>
    intro depth hdepth
    have hsequence : ∀ depth, clauseNesting clauses ≤ depth →
        Spelled (Sequence .or (Unary .or depth))
          ([' '].intercalate (clauseSpellings clauses))
          (.group (.implicit .or) (clauseTrees clauses)) := by
      intro depth hle
      rw [clauseTrees_eq]
      refine spelled_clauses several fun d hd => ?_
      exact spelled_clauseSpelling (all d hd) (ih d hd) (Nat.le_trans (nestingOf_le hd) hle)
    rw [nesting] at hdepth
    rw [spelling, toTree, Tree.boostedBy]
    by_cases hone : boost.numEq Single.one = true
    · rw [if_pos hone] at hdepth ⊢
      rw [if_pos hone]
      exact hsequence depth (by omega)
    · rw [if_neg hone] at hdepth ⊢
      rw [if_neg hone]
      obtain ⟨inner, rfl⟩ : ∃ inner, depth = inner + 1 := ⟨depth - 1, by omega⟩
      have hgroup := spelled_group unsigned (hsequence inner (by omega))
      rw [Tree.boostedBy, if_neg hone] at hgroup
      exact hgroup.mono fun _ h => .single (either_of_unary (Signed.plain h))

end Query

end SearchQuery
