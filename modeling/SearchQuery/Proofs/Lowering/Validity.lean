import SearchQuery.Proofs.Grammar.Sound
import SearchQuery.Proofs.Lowering.Operands
import SearchQuery.Proofs.Text.Casing
import SearchQuery.Query.Validity

/-!
Which queries of trees are valid. Lowering never makes an empty field, phrase or pattern, nor a
similarity or boost below its range; what it can make is a boost that is not finite. The boosts
around an operand are checked together, but not with the boost that its query has already if the
query is the one clause that a group came down to. Main statement: the query of a sound tree is
valid exactly if that product is finite wherever an operand is placed.
-/

namespace SearchQuery

open Number (Single)

/-! ## Queries -/

namespace Query

mutual

/-- Whether every boost of a query is finite. -/
def isFinite : Query → Bool
  | leaf _ boost => boost.isFinite
  | boolean clauses boost => boost.isFinite && allFinite clauses

/-- Whether every boost in the queries of clauses is finite. -/
def allFinite : List (Clause Query) → Bool
  | [] => true
  | ⟨_, query⟩ :: rest => isFinite query && allFinite rest

end

/-- A query without any fault, unless a boost of it is not finite. -/
inductive Sound : Query → Prop
  | leaf {l : Leaf} {boost : Single} (valid : l.validate = .ok ()) (plus : boost.isPlus = true) :
      Sound (.leaf l boost)
  | boolean {clauses : List (Clause Query)} {boost : Single} (all : ∀ c ∈ clauses, Sound c.query)
      (plus : boost.isPlus = true) : Sound (.boolean clauses boost)

theorem allFinite_eq (cs : List (Clause Query)) :
    allFinite cs = cs.all (·.query.isFinite) := by
  induction cs with
  | nil => rfl
  | cons c cs ih => rw [allFinite, ih, List.all_cons]

theorem checkBoost_of_isPlus {boost : Single} (h : boost.isPlus = true) :
    checkBoost boost = if boost.isFinite then .ok () else .error (.boost boost) := by
  rw [checkBoost, Single.belowZero_of_isPlus h, Bool.or_false]
  cases boost.isFinite <;> rfl

/-- What checking a sound query or sound clauses says: nothing, or that a boost is not finite. -/
def Reports (finite : Bool) (check : Except Malformed Unit) : Prop :=
  if finite then check = .ok ()
  else ∃ boost : Single, check = .error (.boost boost) ∧ boost.isFinite = false

theorem reports_validateClauses {cs : List (Clause Query)}
    (h : ∀ c ∈ cs, Reports c.query.isFinite c.query.validate) :
    Reports (allFinite cs) (validateClauses cs) := by
  induction cs with
  | nil => rfl
  | cons c cs ih =>
    rw [List.forall_mem_cons] at h
    have hfirst := h.1
    have hrest := ih h.2
    rw [validateClauses, allFinite]
    cases hc : c.query.isFinite with
    | true =>
      rw [hc] at hfirst
      have hok : c.query.validate = .ok () := hfirst
      rw [hok]
      exact hrest
    | false =>
      rw [hc] at hfirst
      obtain ⟨boost, herror, hboost⟩ : ∃ boost : Single, c.query.validate = .error (.boost boost) ∧
          boost.isFinite = false := hfirst
      rw [herror]
      exact ⟨boost, rfl, hboost⟩

/-- The only fault of a sound query is a boost that is not finite. -/
theorem Sound.reports {q : Query} (h : q.Sound) : Reports q.isFinite q.validate := by
  induction h with
  | @leaf l boost valid plus =>
    rw [validate, checkBoost_of_isPlus plus, isFinite]
    cases hfinite : boost.isFinite with
    | true => exact valid
    | false => exact ⟨boost, rfl, hfinite⟩
  | @boolean clauses boost all plus ih =>
    rw [validate, checkBoost_of_isPlus plus, isFinite]
    cases hfinite : boost.isFinite with
    | true => exact reports_validateClauses ih
    | false => exact ⟨boost, rfl, hfinite⟩

theorem Sound.boost_isPlus {q : Query} (h : q.Sound) : q.boost.isPlus = true := by
  cases h with
  | leaf _ plus => exact plus
  | boolean _ plus => exact plus

theorem Sound.withBoost {q : Query} (h : q.Sound) {b : Single} (hb : b.isPlus = true) :
    (q.withBoost b).Sound := by
  cases h with
  | leaf valid _ => exact .leaf valid hb
  | boolean all _ => exact .boolean all hb

theorem Sound.scale {q : Query} (h : q.Sound) {b : Option Single}
    (hb : ∀ x, b = some x → x.isUnsigned = true) : (q.scale b).Sound := by
  cases b with
  | none => exact h
  | some x =>
    exact h.withBoost (Single.isPlus_mul h.boost_isPlus (Single.isPlus_of_isUnsigned (hb x rfl)))

/-- Whether every boost below the root is finite. -/
def partsFinite : Query → Bool
  | leaf .. => true
  | boolean clauses _ => allFinite clauses

theorem isFinite_withBoost (q : Query) (b : Single) :
    (q.withBoost b).isFinite = (b.isFinite && q.partsFinite) := by
  cases q with
  | leaf => exact (Bool.and_true _).symm
  | boolean => rfl

/-- Multiplying the boost of a query makes it finite only if all of it was. -/
theorem isFinite_scale (q : Query) (b : Option Single) :
    (q.scale b).isFinite = (q.isFinite && (q.scale b).boost.isFinite) := by
  have hself : q.isFinite = (q.boost.isFinite && q.partsFinite) := by
    have h := isFinite_withBoost q q.boost
    cases q <;> exact h
  cases b with
  | none =>
    rw [scale, hself]
    cases q.boost.isFinite <;> simp
  | some x =>
    have hboost : (q.scale (some x)).boost = q.boost.mul x := by cases q <;> rfl
    rw [hboost, hself, scale, isFinite_withBoost]
    cases hx : (q.boost.mul x).isFinite with
    | false => simp
    | true => simp [Single.isFinite_of_isFinite_mul hx]

end Query

/-! ## Leaves -/

theorem Config.expand_ne_empty (config : Config) {text : String} (h : text ≠ "") :
    config.expand text ≠ "" := by
  unfold expand
  split
  · exact Text.lower_ne_empty h
  · exact h

theorem Leaf.validate_of_named (l : Leaf) (named : l.field? ≠ some "") :
    l.validate = l.checkParts := by
  rw [validate, if_neg named]

theorem Leaf.validate_ofTerms? {field : String} {slop : UInt32} {terms : List String} {l : Leaf}
    (named : field ≠ "") (h : Leaf.ofTerms? field slop terms = some l) : l.validate = .ok () := by
  have hfield : some field ≠ some "" := by simpa using named
  match terms with
  | [] => cases h
  | [text] =>
    cases h
    exact validate_of_named (.term field text) hfield
  | text :: text' :: rest =>
    cases h
    exact validate_of_named (.phrase field (text :: text' :: rest) slop) hfield

/-- The leaf of a sound atom in a field with a name is valid. -/
theorem Leaf.validate_ofAtom? {analyzer : Analyzer} {config : Config} {field : String} {a : Atom}
    {l : Leaf} (similar : config.fuzzyMinSimilarity.inUnitInterval = true) (named : field ≠ "")
    (sound : a.Sound) (h : Leaf.ofAtom? analyzer config field a = .ok (some l)) :
    l.validate = .ok () := by
  have hfield : some field ≠ some "" := by simpa using named
  cases a with
  | term text =>
    obtain ⟨terms, -, hl⟩ := Except.map_eq_ok_iff.mp h
    exact validate_ofTerms? named hl
  | phrase text slop =>
    obtain ⟨terms, -, hl⟩ := Except.map_eq_ok_iff.mp h
    exact validate_ofTerms? named hl
  | wildcard pattern =>
    simp only [Leaf.ofAtom?, Except.ok.injEq, Option.some.injEq] at h
    subst h
    split
    · rfl
    · have hpattern : ¬ (config.expand pattern).isEmpty = true := by
        simpa using config.expand_ne_empty sound
      exact (validate_of_named (.wildcard field _) hfield).trans (if_neg hpattern)
  | fuzzy text similarity =>
    cases h
    have hsimilar : (similarity.getD config.fuzzyMinSimilarity).inUnitInterval = true := by
      cases similarity with
      | none => exact similar
      | some s => exact sound
    exact (validate_of_named (.fuzzy field _ _ _) hfield).trans (if_pos hsimilar)
  | range lower upper includeLower includeUpper =>
    cases h
    exact validate_of_named (.range field _ _ _ _) hfield

/-! ## Operands -/

namespace Operand

/-- The boost that the query of an operand takes where the operand is placed. In a disjunction a
negated operand takes the innermost of several boosts. -/
def taken (u : Operand) (disjunctive : Bool) : Option Single :=
  if u.occur = some .mustNot ∧ disjunctive then
    match u.boosts with
    | inner :: _ :: _ => some inner
    | _ => none
  else u.bindingBoost

/-- Whether the boost that the query of an operand has and the one that it takes have a finite
product. -/
def fits (u : Operand) (disjunctive : Bool) : Bool :=
  u.query.all fun query => (query.scale (u.taken disjunctive)).boost.isFinite

/-- The boosts around an operand are finite, alone and together, and its query has no fault but
boosts that are not finite. A query that is made of several clauses has no boost yet. -/
structure Sound (u : Operand) : Prop where
  boosts : ∀ b ∈ u.boosts, b.isUnsigned = true
  products : ∀ n, (Single.product (u.boosts.take n)).isUnsigned = true
  query : ∀ q, u.query = some q → q.Sound
  grouped : ∀ j q, u.junction = some j → u.query = some q → q.boost = Single.one

theorem Sound.isUnsigned_bindingBoost {u : Operand} (h : u.Sound) {b : Single}
    (hb : u.bindingBoost = some b) : b.isUnsigned = true := by
  unfold bindingBoost at hb
  split at hb
  · exact h.boosts b (List.mem_of_mem_head? hb)
  · rename_i n _ _
    cases hb
    exact h.products n
  · split at hb
    · cases hb
    · cases hb
      have hall := h.products u.boosts.length
      rwa [List.take_length] at hall

theorem Sound.isUnsigned_taken {u : Operand} (h : u.Sound) {disjunctive : Bool} {b : Single}
    (hb : u.taken disjunctive = some b) : b.isUnsigned = true := by
  unfold taken at hb
  split at hb
  · split at hb
    · rename_i inner outer rest hboosts
      cases hb
      exact h.boosts b (by simp [hboosts])
    · cases hb
  · exact h.isUnsigned_bindingBoost hb

/-- A query that has no boost yet can take the boosts around it. -/
theorem Sound.fits_of_boost_one {u : Operand} (h : u.Sound)
    (hone : ∀ q, u.query = some q → q.boost = Single.one) (disjunctive : Bool) :
    u.fits disjunctive = true := by
  rw [fits, Option.all_eq_true]
  intro q hq
  have hq : u.query = some q := by simpa using hq
  cases ht : u.taken disjunctive with
  | none =>
    rw [Query.scale, hone q hq]
    rfl
  | some b =>
    have hfinite := Single.isFinite_of_isUnsigned (h.isUnsigned_taken ht)
    have hboost : (q.scale (some b)).boost = q.boost.mul b := by cases q <;> rfl
    rw [hboost, hone q hq, Single.one_mul hfinite, hfinite]

/-- The query of the clause that an operand is placed as. -/
theorem place_cases {u : Operand} {default : Occur} {disjunctive : Bool} {c : Clause Query}
    (h : u.place default disjunctive = some c) :
    ∃ q, u.query = some q ∧ (c.query = q.scale (u.taken disjunctive) ∨
      ∃ outer, (outer = Single.one ∨ outer ∈ u.boosts) ∧
        c.query = .boolean [⟨.mustNot, q.scale (u.taken disjunctive)⟩] outer) := by
  obtain ⟨q, hq, rfl⟩ := Option.map_eq_some_iff.mp h
  refine ⟨q, hq, ?_⟩
  by_cases hnot : u.occur = some .mustNot ∧ disjunctive
  · right
    rw [if_pos hnot, taken, if_pos hnot]
    match hboosts : u.boosts with
    | [] => exact ⟨Single.one, .inl rfl, rfl⟩
    | [outer] => exact ⟨outer, .inr (by simp), rfl⟩
    | inner :: outer :: rest =>
      exact ⟨_, .inr (List.mem_cons_of_mem inner (List.getLast_mem _)), rfl⟩
  · left
    rw [if_neg hnot, taken, if_neg hnot]

/-- The query that an operand is placed as is finite if the operand was and fits. -/
theorem Sound.isFinite_place {u : Operand} (h : u.Sound) (default : Occur) (disjunctive : Bool) :
    (u.place default disjunctive).all (·.query.isFinite) =
      (u.query.all Query.isFinite && u.fits disjunctive) := by
  cases hp : u.place default disjunctive with
  | none =>
    have hnone : u.query = none := by simpa [place] using hp
    simp [fits, hnone]
  | some c =>
    obtain ⟨q, hq, hscale | ⟨outer, houter, hnegation⟩⟩ := place_cases hp
    · rw [Option.all_some, hscale, Query.isFinite_scale, fits, hq]
      rfl
    · have hfinite : outer.isFinite = true := by
        rcases houter with rfl | hmem
        · rfl
        · exact Single.isFinite_of_isUnsigned (h.boosts outer hmem)
      rw [Option.all_some, hnegation, Query.isFinite, Query.allFinite, Query.allFinite,
        Query.isFinite_scale, hfinite, fits, hq]
      simp

theorem Sound.query_place {u : Operand} (h : u.Sound) {default : Occur} {disjunctive : Bool}
    {c : Clause Query} (hc : u.place default disjunctive = some c) : c.query.Sound := by
  obtain ⟨q, hq, hscale | ⟨outer, houter, hnegation⟩⟩ := place_cases hc
  · rw [hscale]
    exact (h.query q hq).scale fun _ => h.isUnsigned_taken
  · have hplus : outer.isPlus = true := by
      rcases houter with rfl | hmem
      · rfl
      · exact Single.isPlus_of_isUnsigned (h.boosts outer hmem)
    have hinner : (q.scale (u.taken disjunctive)).Sound :=
      (h.query q hq).scale fun _ => h.isUnsigned_taken
    rw [hnegation]
    exact .boolean (by simpa using hinner) hplus

/-- The clauses of an operand are sound. -/
theorem Sound.query_clauses {u : Operand} (h : u.Sound) {junction : Junction} {splice : Bool}
    (hsplice : splice = true → u.canSplice junction = true) {c : Clause Query}
    (hc : c ∈ u.clauses junction splice) : c.query.Sound := by
  rcases clauses_cases hsplice with hplace | hspliced
  · rw [hplace, Option.mem_toList] at hc
    exact h.query_place hc
  · obtain ⟨j, boost, -, hquery⟩ := hspliced.exists_query
    cases h.query _ hquery with
    | boolean all _ => exact all c hc

/-- The clauses of an operand are finite if the operand was and fits. A spliced operand always fits,
as it has no boosts around it and its query none of its own. -/
theorem Sound.isFinite_clauses {u : Operand} (h : u.Sound) {junction : Junction} {splice : Bool}
    (hsplice : splice = true → u.canSplice junction = true) :
    (u.clauses junction splice).all (·.query.isFinite) =
      (u.query.all Query.isFinite && u.fits (junction == .or)) := by
  rcases clauses_cases hsplice with hplace | hspliced
  · rw [hplace, ← h.isFinite_place junction.occur (junction == .or)]
    cases u.place junction.occur (junction == .or) <;> simp
  · obtain ⟨j, boost, hjunction, hquery⟩ := hspliced.exists_query
    have hone : boost = Single.one := h.grouped j _ hjunction hquery
    have hfits : u.fits (junction == .or) = true :=
      h.fits_of_boost_one (fun q hq => h.grouped j q hjunction hq) _
    rw [hfits, hquery, hone, Option.all_some, Query.isFinite, Query.allFinite_eq, Bool.and_true]
    rfl

theorem sound_ofClauses {junction : Junction} {cs : List (Clause Query)}
    (h : ∀ c ∈ cs, c.query.Sound) : (ofClauses junction cs).Sound := by
  have hclauses : (Query.ofClauses cs).Sound := .boolean h rfl
  have hproducts : ∀ n, (Single.product (([] : List Single).take n)).isUnsigned = true := by
    intro n
    rw [List.take_nil]
    rfl
  unfold ofClauses
  split
  · exact ⟨by simp [empty], hproducts, by simp [empty], by simp [empty]⟩
  · rename_i occur query
    split
    · refine ⟨by simp, hproducts, ?_, ?_⟩
      · rintro q ⟨⟩
        exact hclauses
      · rintro j q - ⟨⟩
        rfl
    · refine ⟨by simp [ofQuery], hproducts, ?_, by simp [ofQuery]⟩
      rintro q ⟨⟩
      exact h ⟨occur, query⟩ (by simp)
  · refine ⟨by simp, hproducts, ?_, ?_⟩
    · rintro q ⟨⟩
      exact hclauses
    · rintro j q - ⟨⟩
      rfl

theorem isFinite_ofClauses (junction : Junction) (cs : List (Clause Query)) :
    (ofClauses junction cs).query.all Query.isFinite = cs.all (·.query.isFinite) := by
  have hclauses : (Query.ofClauses cs).isFinite = cs.all (·.query.isFinite) := by
    rw [Query.ofClauses, Query.isFinite, Query.allFinite_eq]
    rfl
  match cs with
  | [] => rfl
  | [⟨occur, query⟩] =>
    rw [ofClauses]
    split
    · exact hclauses
    · exact (Bool.and_true _).symm
  | c :: c' :: rest => exact hclauses

theorem sound_excluding {junction : Junction} {us : List Operand} (h : ∀ u ∈ us, u.Sound) :
    ∀ u ∈ excluding junction us, u.Sound :=
  forall_mem_excluding junction
    (fun _ sound => ⟨sound.boosts, sound.products, sound.query, sound.grouped⟩) h

/-- Excluding an operand does not change the boost that it takes. -/
theorem all_fits_excluding (junction : Junction) (us : List Operand) :
    ((excluding junction us).all fun u => u.query.all Query.isFinite && u.fits (junction == .or)) =
      us.all fun u => u.query.all Query.isFinite && u.fits (junction == .or) := by
  unfold excluding
  split
  · rename_i first rest
    rw [List.all_cons, List.all_cons, List.all_map]
    congr 2
    funext u
    simp [fits, taken, bindingBoost]
  · rfl

theorem sound_group {junction : Junction} {us : List Operand} (h : ∀ u ∈ us, u.Sound) :
    (group junction us).Sound := by
  obtain ⟨splice, heq, hsplice⟩ := exists_group_eq junction us
  rw [heq]
  refine sound_ofClauses fun c hc => ?_
  obtain ⟨u, hu, hc⟩ := List.mem_flatMap.mp hc
  exact (sound_excluding h u hu).query_clauses (hsplice u hu) hc

/-- A group is finite if its operands are and fit. -/
theorem isFinite_group {junction : Junction} {us : List Operand} (h : ∀ u ∈ us, u.Sound) :
    (group junction us).query.all Query.isFinite =
      us.all fun u => u.query.all Query.isFinite && u.fits (junction == .or) := by
  obtain ⟨splice, heq, hsplice⟩ := exists_group_eq junction us
  rw [heq, isFinite_ofClauses, List.all_flatMap, ← all_fits_excluding]
  rw [Bool.eq_iff_iff, List.all_eq_true, List.all_eq_true]
  exact forall₂_congr fun u hu => by
    rw [(sound_excluding h u hu).isFinite_clauses (hsplice u hu)]

/-- A boost that is finite with those already there keeps an operand sound. -/
theorem Sound.boost {u u' : Operand} {value : Single} (h : u.Sound)
    (hvalue : value.isUnsigned = true) (hu : u.boost value = .ok u') : u'.Sound := by
  rw [Operand.boost] at hu
  split at hu
  · rename_i hfinite
    cases hu
    refine ⟨?_, fun n => ?_, h.query, h.grouped⟩
    · rw [List.forall_mem_append, List.forall_mem_singleton]
      exact ⟨h.boosts, hvalue⟩
    · by_cases hn : n ≤ u.boosts.length
      · rw [List.take_append_of_le_length hn]
        exact h.products n
      · have htake : (u.boosts ++ [value]).take n = u.boosts ++ [value] :=
          List.take_of_length_le (by simp; omega)
        have hproduct : Single.product (u.boosts ++ [value]) =
            (Single.product u.boosts).mul value := by
          simp [Single.product]
        have hall := h.products u.boosts.length
        rw [List.take_length] at hall
        rw [htake, hproduct]
        exact Single.isUnsigned_mul hall hvalue (hproduct ▸ hfinite)
  · cases hu

end Operand

/-! ## Trees -/

namespace Tree

variable (analyzer : Analyzer) (config : Config)

/-- Whether the operand of a tree fits where it is placed. -/
def fitsPlace (field : String) (disjunctive : Bool) (t : Tree) : Bool :=
  match Operand.ofTree analyzer config field t with
  | .ok u => u.fits disjunctive
  | .error _ => true

mutual

/-- Whether every operand of every group within a tree fits there. -/
def fits (field : String) : Tree → Bool
  | atom .. => true
  | scope inner child => fits inner child
  | boost _ child | required child | prohibited child => fits field child
  | group junction children => fitAll field (junction == .or) children

/-- Whether every operand of a group fits there, and every operand within one. -/
def fitAll (field : String) (disjunctive : Bool) : List Tree → Bool
  | [] => true
  | t :: rest => (fits field t && fitsPlace analyzer config field disjunctive t) &&
    fitAll field disjunctive rest

end

mutual

/-- Whether analysis leaves something of every atom of a tree. -/
def keepsAtoms (field : String) : Tree → Bool
  | atom own a => (a.leaf? analyzer config (own.getD field)).isSome
  | scope inner child => keepsAtoms inner child
  | boost _ child | required child | prohibited child => keepsAtoms field child
  | group _ children => keepAtoms field children

def keepAtoms (field : String) : List Tree → Bool
  | [] => true
  | t :: rest => keepsAtoms field t && keepAtoms field rest

end

/-- Whether every operand of a tree fits where it is placed, the tree alone included. -/
def fitsAlone (field : String) (t : Tree) : Bool :=
  t.fits analyzer config field && t.fitsPlace analyzer config field false

variable {analyzer config} in
theorem fitsPlace_of_ok {field : String} {disjunctive : Bool} {t : Tree} {u : Operand}
    (h : Operand.ofTree analyzer config field t = .ok u) :
    t.fitsPlace analyzer config field disjunctive = u.fits disjunctive := by
  rw [fitsPlace, h]

end Tree

namespace Operand

/-- An operand is sound, and finite if all within its tree fits. -/
def Bounded (analyzer : Analyzer) (config : Config) (field : String) (t : Tree) (u : Operand) :
    Prop :=
  field ≠ "" → t.Sound →
    u.Sound ∧ u.query.all Query.isFinite = t.fits analyzer config field

theorem fitAll_eq {analyzer : Analyzer} {config : Config} {field : String} {disjunctive : Bool}
    {ts : List Tree} {us : List Operand}
    (h : List.Forall₂ (fun t u => ofTree analyzer config field t = .ok u ∧
      u.query.all Query.isFinite = t.fits analyzer config field) ts us) :
    Tree.fitAll analyzer config field disjunctive ts =
      us.all fun u => u.query.all Query.isFinite && u.fits disjunctive := by
  induction h with
  | nil => rfl
  | @cons t u ts us hu _ ih =>
    rw [Tree.fitAll, ih, List.all_cons, hu.2, Tree.fitsPlace_of_ok hu.1]

theorem hereditary_bounded (analyzer : Analyzer) {config : Config}
    (similar : config.fuzzyMinSimilarity.inUnitInterval = true) :
    Hereditary analyzer config (Bounded analyzer config) where
  atom field own a leaf h named sound := by
    have hproducts : ∀ n, (Single.product (([] : List Single).take n)).isUnsigned = true := by
      intro n
      rw [List.take_nil]
      rfl
    cases leaf with
    | none => exact ⟨⟨by simp, hproducts, by simp, by simp⟩, rfl⟩
    | some l =>
      have hvalid : l.validate = .ok () := by
        cases sound with
        | atom hown ha =>
          refine Leaf.validate_ofAtom? similar ?_ ha h
          cases own with
          | none => exact named
          | some name => simpa using hown
      refine ⟨⟨by simp, hproducts, ?_, by simp⟩, rfl⟩
      rintro q ⟨⟩
      exact .leaf hvalid rfl
  scope field inner t u h named sound := by
    cases sound with
    | scope hinner child => exact h hinner child
  boost field value t u u' h hu named sound := by
    cases sound with
    | boost unsigned child =>
      obtain ⟨husound, hfinite⟩ := h named child
      refine ⟨husound.boost unsigned hu, ?_⟩
      rw [Operand.boost] at hu
      split at hu
      · cases hu
        exact hfinite
      · cases hu
  required field t u h named sound := by
    cases sound with
    | required child =>
      obtain ⟨husound, hfinite⟩ := h named child
      unfold require
      split
      · exact ⟨husound, hfinite⟩
      · exact ⟨⟨husound.boosts, husound.products, husound.query, husound.grouped⟩, hfinite⟩
  prohibited field t u h named sound := by
    cases sound with
    | prohibited child =>
      obtain ⟨husound, hfinite⟩ := h named child
      exact ⟨⟨husound.boosts, husound.products, husound.query, husound.grouped⟩, hfinite⟩
  group field junction ts us h named sound := by
    cases sound with
    | group several all =>
      have hus : ∀ u ∈ us, u.Sound := by
        intro u hu
        obtain ⟨t, ht, -, hbounded⟩ := h.exists_of_mem_right hu
        exact (hbounded named (all t ht)).1
      have hfit : List.Forall₂ (fun t u => ofTree analyzer config field t = .ok u ∧
          u.query.all Query.isFinite = t.fits analyzer config field) ts us := by
        have hboth := (List.forall₂_and_left ts us).mpr ⟨all, h⟩
        exact hboth.imp fun t u hu => ⟨hu.2.1, (hu.2.2 named hu.1).2⟩
      exact ⟨sound_group hus, by rw [isFinite_group hus, Tree.fits, fitAll_eq hfit]⟩

theorem Sound.query_toQuery {u : Operand} (h : u.Sound) : u.toQuery.Sound := by
  unfold toQuery
  split
  · exact .boolean (by simp) rfl
  · rename_i c hc
    have hquery := h.query_place hc
    split
    · exact .boolean (by simpa using hquery) rfl
    · exact hquery

/-- An operand that stands alone makes a finite query if it was finite and fits. -/
theorem Sound.isFinite_toQuery {u : Operand} (h : u.Sound) :
    u.toQuery.isFinite = (u.query.all Query.isFinite && u.fits false) := by
  rw [← h.isFinite_place .must false]
  unfold toQuery
  split
  · rename_i hplace
    rw [hplace]
    rfl
  · rename_i c hplace
    rw [hplace, Option.all_some]
    split
    · rw [Query.ofClauses, Query.isFinite, Query.allFinite, Query.allFinite, Bool.and_true]
      rfl
    · rfl

end Operand

/-! ## Trees of which nothing is dropped -/

theorem Tree.keepAtoms_eq {analyzer : Analyzer} {config : Config} {field : String}
    (ts : List Tree) :
    keepAtoms analyzer config field ts = ts.all (keepsAtoms analyzer config field) := by
  induction ts with
  | nil => rfl
  | cons t ts ih => rw [keepAtoms, ih, List.all_cons]

namespace Operand

/-- If nothing of a tree is dropped, its operand has a query without a boost of its own, and all
within the tree fits. -/
def Unboosted (analyzer : Analyzer) (config : Config) (field : String) (t : Tree) (u : Operand) :
    Prop :=
  field ≠ "" → t.Sound → t.keepsAtoms analyzer config field = true →
    (∃ q, u.query = some q ∧ q.boost = Single.one) ∧ t.fits analyzer config field = true

theorem Sound.fits_of_exists {u : Operand} (h : u.Sound)
    (hone : ∃ q, u.query = some q ∧ q.boost = Single.one) (disjunctive : Bool) :
    u.fits disjunctive = true := by
  obtain ⟨q, hq, hboost⟩ := hone
  refine h.fits_of_boost_one (fun q' hq' => ?_) disjunctive
  rw [hq] at hq'
  cases hq'
  exact hboost

theorem hereditary_unboosted (analyzer : Analyzer) {config : Config}
    (similar : config.fuzzyMinSimilarity.inUnitInterval = true) :
    Hereditary analyzer config (Unboosted analyzer config) where
  atom field own a leaf h _ _ keeps := by
    rw [Tree.keepsAtoms, Atom.leaf?_of_ofAtom? h] at keeps
    obtain ⟨l, rfl⟩ := Option.isSome_iff_exists.mp keeps
    exact ⟨⟨_, rfl, rfl⟩, rfl⟩
  scope field inner t u h _ sound keeps := by
    cases sound with
    | scope hinner child => exact h hinner child keeps
  boost field value t u u' h hu named sound keeps := by
    cases sound with
    | boost _ child =>
      obtain ⟨hquery, hfits⟩ := h named child keeps
      rw [Operand.boost] at hu
      split at hu
      · cases hu
        exact ⟨hquery, hfits⟩
      · cases hu
  required field t u h named sound keeps := by
    cases sound with
    | required child =>
      obtain ⟨hquery, hfits⟩ := h named child keeps
      unfold require
      split <;> exact ⟨hquery, hfits⟩
  prohibited field t u h named sound keeps := by
    cases sound with
    | prohibited child => exact h named child keeps
  group field junction ts us h named sound keeps := by
    cases sound with
    | group several all =>
      rw [Tree.keepsAtoms, Tree.keepAtoms_eq, List.all_eq_true] at keeps
      have hchildren : List.Forall₂ (fun t u => u.Shaped ∧ u.Sound ∧
          (∃ q, u.query = some q ∧ q.boost = Single.one) ∧ (ofTree analyzer config field t = .ok u ∧
            u.query.all Query.isFinite = t.fits analyzer config field) ∧
          t.fits analyzer config field = true) ts us := by
        have hsoundly := (List.forall₂_and_left ts us).mpr ⟨all, h⟩
        have hboth := (List.forall₂_and_left ts us).mpr ⟨keeps, hsoundly⟩
        refine hboth.imp fun t u htu => ?_
        obtain ⟨hkeeps, hsound, hu, hunboosted⟩ := htu
        obtain ⟨hquery, hfits⟩ := hunboosted named hsound hkeeps
        obtain ⟨husound, hfinite⟩ := (hereditary_bounded analyzer similar).ofTree t hu named hsound
        have hshaped := (hereditary_shaped analyzer config).ofTree t hu
        exact ⟨hshaped, husound, hquery, ⟨hu, hfinite⟩, hfits⟩
      have hus : ∀ u ∈ us, u.Shaped ∧ u.query ≠ none := by
        intro u hu
        obtain ⟨t, -, hshaped, -, ⟨q, hq, -⟩, -⟩ := hchildren.exists_of_mem_right hu
        exact ⟨hshaped, by simp [hq]⟩
      have hlength : 2 ≤ us.length := hchildren.length_eq ▸ several
      obtain ⟨splice, cs, -, -, -, hgroup⟩ := exists_group_of_several junction hlength
        (fun u hu => (hus u hu).1) fun u hu => (hus u hu).2
      refine ⟨⟨_, by rw [hgroup], rfl⟩, ?_⟩
      rw [Tree.fits, fitAll_eq (hchildren.imp fun t u htu => htu.2.2.2.1), List.all_eq_true]
      intro u hu
      obtain ⟨t, -, -, hsound, hquery, ⟨-, hfinite⟩, hfits⟩ := hchildren.exists_of_mem_right hu
      rw [hfinite, hfits, hsound.fits_of_exists hquery]
      rfl

end Operand

/-- The query of a sound tree is valid if every operand fits where it is placed, and otherwise has a
boost that is not finite. -/
theorem Query.reports_ofTree {analyzer : Analyzer} {config : Config} {field : String} {t : Tree}
    {u : Operand} (similar : config.fuzzyMinSimilarity.inUnitInterval = true) (named : field ≠ "")
    (sound : t.Sound) (h : Operand.ofTree analyzer config field t = .ok u) :
    Query.Reports (t.fitsAlone analyzer config field) u.toQuery.validate := by
  obtain ⟨husound, hfits⟩ := (Operand.hereditary_bounded analyzer similar).ofTree t h named sound
  rw [Tree.fitsAlone, Tree.fitsPlace_of_ok h, ← hfits, ← husound.isFinite_toQuery]
  exact husound.query_toQuery.reports

/-- Every operand of a tree of which nothing is dropped fits. -/
theorem Tree.fitsAlone_of_keepsAtoms {analyzer : Analyzer} {config : Config} {field : String}
    {t : Tree} {u : Operand} (similar : config.fuzzyMinSimilarity.inUnitInterval = true)
    (named : field ≠ "") (sound : t.Sound) (h : Operand.ofTree analyzer config field t = .ok u)
    (keeps : t.keepsAtoms analyzer config field = true) :
    t.fitsAlone analyzer config field = true := by
  obtain ⟨husound, -⟩ := (Operand.hereditary_bounded analyzer similar).ofTree t h named sound
  obtain ⟨hquery, hfits⟩ :=
    (Operand.hereditary_unboosted analyzer similar).ofTree t h named sound keeps
  rw [fitsAlone, hfits, fitsPlace_of_ok h, husound.fits_of_exists hquery]
  rfl

end SearchQuery
