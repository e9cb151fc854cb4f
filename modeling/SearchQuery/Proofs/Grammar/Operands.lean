import SearchQuery.Proofs.Grammar.Levels

/-!
The parsers of operands read the operands of the grammar. Main statement: a token list has a tree
exactly where all of it spells that tree.
-/

namespace SearchQuery.Grammar

open Number (Single)

variable {p : Parse} {L : Language}

theorem bound_ok_iff {position : Nat} {ts rest : List Token} {b : Option String} :
    bound position ts = .ok (b, rest) ↔ ∃ t, ts = t :: rest ∧ Bound t.kind b := by
  constructor
  · intro hr
    unfold bound at hr
    split at hr
    · split at hr <;> cases hr
      · rename_i hp
        exact ⟨_, rfl, hp ▸ .opened⟩
      · rename_i hp
        exact ⟨_, rfl, .wildcard hp⟩
    · cases hr
      exact ⟨_, rfl, .term⟩
    · cases hr
      exact ⟨_, rfl, .phrase⟩
    · cases hr
  · rintro ⟨⟨k, o⟩, rfl, hb⟩
    cases hb with
    | opened => rfl
    | wildcard closed => simp [bound, closed]
    | term => rfl
    | phrase => rfl

theorem boundSeparator_ok_iff {position : Nat} {ts rest : List Token} :
    boundSeparator position ts = .ok rest ↔ ∃ t, ts = t :: rest ∧ t.kind = .rangeTo := by
  constructor
  · intro hr
    unfold boundSeparator at hr
    split at hr <;> cases hr
    exact ⟨_, rfl, rfl⟩
  · rintro ⟨⟨k, o⟩, rfl, rfl⟩
    rfl

theorem rangeEnd_ok_iff {position : Nat} {ts rest : List Token} {includeUpper : Bool} :
    rangeEnd position ts = .ok (includeUpper, rest) ↔
      ∃ t, ts = t :: rest ∧ t.kind = closing includeUpper := by
  constructor
  · intro hr
    unfold rangeEnd at hr
    split at hr <;> cases hr
    · exact ⟨_, rfl, rfl⟩
    · exact ⟨_, rfl, rfl⟩
  · rintro ⟨⟨k, o⟩, rfl, rfl⟩
    cases includeUpper <;> rfl

theorem range_ok_iff {includeLower : Bool} {position : Nat} {ts rest : List Token} {t : Tree} :
    range includeLower position ts = .ok (t, rest) ↔
      ∃ front lo hi lower upper includeUpper, ts = front ++ rest ∧
        kinds front = [lo, .rangeTo, hi, closing includeUpper] ∧ Bound lo lower ∧ Bound hi upper ∧
        t = .atom none (.range lower upper includeLower includeUpper) := by
  constructor
  · intro hr
    obtain ⟨⟨lower, mid⟩, hl, hr⟩ := Except.bind_eq_ok_iff.mp hr
    obtain ⟨mid', hs, hr⟩ := Except.bind_eq_ok_iff.mp hr
    obtain ⟨⟨upper, mid''⟩, hu, hr⟩ := Except.bind_eq_ok_iff.mp hr
    obtain ⟨⟨includeUpper, last⟩, he, hr⟩ := Except.bind_eq_ok_iff.mp hr
    cases hr
    obtain ⟨t₁, rfl, below⟩ := bound_ok_iff.mp hl
    obtain ⟨t₂, rfl, hsep⟩ := boundSeparator_ok_iff.mp hs
    obtain ⟨t₃, rfl, above⟩ := bound_ok_iff.mp hu
    obtain ⟨t₄, rfl, hend⟩ := rangeEnd_ok_iff.mp he
    exact ⟨[t₁, t₂, t₃, t₄], t₁.kind, t₃.kind, lower, upper, includeUpper, rfl,
      by simp [hsep, hend], below, above, rfl⟩
  · rintro ⟨front, lo, hi, lower, upper, includeUpper, rfl, hk, below, above, rfl⟩
    obtain ⟨t₁, us₁, rfl, rfl, hk₁⟩ := kinds_eq_cons hk
    obtain ⟨t₂, us₂, rfl, hsep, hk₂⟩ := kinds_eq_cons hk₁
    obtain ⟨t₃, us₃, rfl, rfl, hk₃⟩ := kinds_eq_cons hk₂
    obtain ⟨t₄, us₄, rfl, hend, hk₄⟩ := kinds_eq_cons hk₃
    obtain rfl : us₄ = [] := List.map_eq_nil_iff.mp hk₄
    refine Except.bind_eq_ok_iff.mpr ⟨_, bound_ok_iff.mpr ⟨t₁, rfl, below⟩, ?_⟩
    refine Except.bind_eq_ok_iff.mpr ⟨_, boundSeparator_ok_iff.mpr ⟨t₂, rfl, hsep⟩, ?_⟩
    refine Except.bind_eq_ok_iff.mpr ⟨_, bound_ok_iff.mpr ⟨t₃, rfl, above⟩, ?_⟩
    exact Except.bind_eq_ok_iff.mpr ⟨_, rangeEnd_ok_iff.mpr ⟨t₄, rfl, hend⟩, rfl⟩

theorem group_ok_iff (operator : Operator) (h : Reads p L isModifier) {position : Nat}
    {ts rest : List Token} {t : Tree} : group operator p position ts = .ok (t, rest) ↔
      ∃ front close, ts = front ++ close :: rest ∧ close.kind = .rightParen ∧
        Sequence operator L (kinds front) t := by
  constructor
  · intro hr
    obtain ⟨⟨tree, mid⟩, hseq, hclose⟩ := Except.bind_eq_ok_iff.mp hr
    obtain ⟨front, rfl, hs, -⟩ := (sequence_ok_iff operator h).mp hseq
    simp only at hclose
    split at hclose <;> cases hclose
    exact ⟨front, _, rfl, rfl, hs⟩
  · rintro ⟨front, ⟨k, o⟩, rfl, rfl, hs⟩
    have hstop : next inSequence (⟨.rightParen, o⟩ :: rest) = false := rfl
    have hseq := (sequence_ok_iff operator h).mpr ⟨front, rfl, hs, hstop⟩
    exact Except.bind_eq_ok_iff.mpr ⟨_, hseq, rfl⟩

/-- The operands one level further in: none where the depth limit is reached. -/
def ReadsDeeper (deeper : Option Parse) (L : Language) : Prop :=
  match deeper with
  | none => ∀ ks t, ¬ L ks t
  | some p => Reads p L isModifier

theorem Sequence.not_of_empty {operator : Operator} (h : ∀ ks t, ¬ L ks t) {ks : List Token.Kind}
    {t : Tree} : ¬ Sequence operator L ks t := by
  have level {L : Language} (h : ∀ ks t, ¬ L ks t) (k : Token.Kind) (j : Junction) :
      ∀ ks t, ¬ Level k j L ks t := by
    intro ks t hl
    cases hl with
    | single only => exact h _ _ only
    | several first _ => exact h _ _ first
  have heither := level (level (level h .not .not) .and .and) .or .or
  intro hs
  cases hs with
  | single only => exact heither _ _ only
  | several all =>
    cases all with
    | cons first _ _ => exact heither _ _ first

theorem Base.starts {operator : Operator} {ks : List Token.Kind} {t : Tree}
    (hb : Base operator L ks t) : ∃ k rest, ks = k :: rest ∧ startsBase k = true := by
  cases hb with
  | @range _ _ _ _ includeLower _ _ _ => cases includeLower <;> exact ⟨_, _, rfl, rfl⟩
  | _ => exact ⟨_, _, rfl, rfl⟩

variable {operator : Operator} {limit : Nat} {deeper : Option Parse}

theorem base_sound (h : ReadsDeeper deeper L) {ts rest : List Token} {t : Tree}
    (hr : base operator limit deeper ts = .ok (t, rest)) :
    ∃ front, ts = front ++ rest ∧ Base operator L (kinds front) t := by
  cases ts with
  | nil => cases hr
  | cons first ts =>
    obtain ⟨k, o⟩ := first
    cases k with
    | leftParen =>
      cases deeper with
      | none => cases hr
      | some unary =>
        obtain ⟨front, close, rfl, hclose, hs⟩ := (group_ok_iff operator h).mp hr
        refine ⟨⟨.leftParen, o⟩ :: (front ++ [close]), by simp, ?_⟩
        simpa [hclose] using Base.group hs
    | term text =>
      cases hr
      refine ⟨[⟨.term text, o⟩], rfl, ?_⟩
      split
      · rename_i hstar
        subst hstar
        exact .all
      · exact .term ‹_›
    | wildcard pattern =>
      cases hr
      exact ⟨[⟨.wildcard pattern, o⟩], rfl, .wildcard⟩
    | phrase text =>
      cases hr
      exact ⟨[⟨.phrase text, o⟩], rfl, .phrase⟩
    | leftBracket =>
      obtain ⟨front, lo, hi, lower, upper, includeUpper, rfl, hk, below, above, rfl⟩ :=
        range_ok_iff.mp hr
      refine ⟨⟨.leftBracket, o⟩ :: front, rfl, ?_⟩
      rw [kinds_cons, hk]
      change Base operator L [opening true, lo, .rangeTo, hi, closing includeUpper] _
      exact .range below above
    | leftBrace =>
      obtain ⟨front, lo, hi, lower, upper, includeUpper, rfl, hk, below, above, rfl⟩ :=
        range_ok_iff.mp hr
      refine ⟨⟨.leftBrace, o⟩ :: front, rfl, ?_⟩
      rw [kinds_cons, hk]
      change Base operator L [opening false, lo, .rangeTo, hi, closing includeUpper] _
      exact .range below above
    | _ => cases hr

theorem base_complete (h : ReadsDeeper deeper L) {front : List Token} {t : Tree}
    (hb : Base operator L (kinds front) t) (limit : Nat) (rest : List Token) :
    base operator limit deeper (front ++ rest) = .ok (t, rest) := by
  generalize hk : kinds front = ks at hb
  obtain ⟨k, ks', rfl, -⟩ := hb.starts
  obtain ⟨⟨k, o⟩, us, rfl, rfl, hus⟩ := kinds_eq_cons hk
  cases hb with
  | group inner =>
    obtain ⟨us, vs, rfl, rfl, hvs⟩ := kinds_eq_append hus
    obtain ⟨close, vs, rfl, hclose, hnil⟩ := kinds_eq_cons hvs
    obtain rfl : vs = [] := List.map_eq_nil_iff.mp hnil
    cases deeper with
    | none => exact absurd inner (Sequence.not_of_empty h)
    | some unary =>
      refine (group_ok_iff operator h).mpr ⟨us, close, by simp, hclose, inner⟩
  | all =>
    obtain rfl : us = [] := List.map_eq_nil_iff.mp hus
    rfl
  | term plain =>
    obtain rfl : us = [] := List.map_eq_nil_iff.mp hus
    simp [base, plain]
  | wildcard =>
    obtain rfl : us = [] := List.map_eq_nil_iff.mp hus
    rfl
  | phrase =>
    obtain rfl : us = [] := List.map_eq_nil_iff.mp hus
    rfl
  | @range lo hi lower upper includeLower includeUpper below above =>
    have hrange : range includeLower o (us ++ rest) = .ok (_, rest) :=
      range_ok_iff.mpr ⟨us, lo, hi, lower, upper, includeUpper, rfl, hus, below, above, rfl⟩
    cases includeLower <;> exact hrange

theorem Primary.starts {ks : List Token.Kind} {t : Tree} (hp : Primary operator L ks t) :
    ∃ k rest, ks = k :: rest ∧ startsOperand k = true ∧ isSign k = false := by
  cases hp with
  | plain hb =>
    obtain ⟨k, rest, rfl, hk⟩ := hb.starts
    refine ⟨k, rest, rfl, ?_⟩
    cases k <;> first | exact ⟨rfl, rfl⟩ | cases hk
  | under hb => exact ⟨_, _, rfl, rfl, rfl⟩

theorem primary_sound (h : ReadsDeeper deeper L) {ts rest : List Token} {t : Tree}
    (hr : primary operator limit deeper ts = .ok (t, rest)) :
    ∃ front, ts = front ++ rest ∧ Primary operator L (kinds front) t := by
  have plain (hr : base operator limit deeper ts = .ok (t, rest)) :
      ∃ front, ts = front ++ rest ∧ Primary operator L (kinds front) t := by
    obtain ⟨front, hts, hb⟩ := base_sound h hr
    exact ⟨front, hts, .plain hb⟩
  cases ts with
  | nil => exact plain hr
  | cons first ts =>
    obtain ⟨k, o⟩ := first
    cases k with
    | field name =>
      simp only [primary] at hr
      split at hr
      · obtain ⟨⟨tree, after⟩, hbase, hunder⟩ := Except.bind_eq_ok_iff.mp hr
        cases hunder
        obtain ⟨front, rfl, hb⟩ := base_sound h hbase
        exact ⟨⟨.field name, o⟩ :: front, rfl, .under hb⟩
      · cases hr
    | _ => exact plain hr

theorem primary_complete (h : ReadsDeeper deeper L) {front : List Token} {t : Tree}
    (hp : Primary operator L (kinds front) t) (limit : Nat) (rest : List Token) :
    primary operator limit deeper (front ++ rest) = .ok (t, rest) := by
  generalize hk : kinds front = ks at hp
  cases hp with
  | plain hb =>
    obtain ⟨k, ks, rfl, hstart⟩ := hb.starts
    have hbase := base_complete h (hk ▸ hb) limit rest
    obtain ⟨⟨k, o⟩, us, rfl, rfl, -⟩ := kinds_eq_cons hk
    cases k with
    | field name => cases hstart
    | _ => exact hbase
  | under hb =>
    obtain ⟨⟨k, o⟩, us, rfl, rfl, hus⟩ := kinds_eq_cons hk
    obtain ⟨k, ks, hks, hstart⟩ := hb.starts
    have hbase := base_complete h (hus ▸ hb) limit rest
    simp only [List.cons_append, primary, next_append_of_head (hus.trans hks), hstart, ↓reduceIte]
    exact Except.bind_eq_ok_iff.mpr ⟨_, hbase, rfl⟩

theorem startsGroup_append {front rest : List Token} {t : Tree}
    (hp : Primary operator L (kinds front) t) :
    startsGroup (front ++ rest) = opensGroup (kinds front) := by
  generalize hk : kinds front = ks at hp
  cases hp with
  | plain hb =>
    obtain ⟨k, ks, rfl, hstart⟩ := hb.starts
    obtain ⟨⟨k, o⟩, us, rfl, rfl, -⟩ := kinds_eq_cons hk
    cases k <;> first | rfl | cases hstart
  | under hb =>
    obtain ⟨k, ks, rfl, -⟩ := hb.starts
    obtain ⟨⟨k, o⟩, us, rfl, rfl, hus⟩ := kinds_eq_cons hk
    obtain ⟨⟨k, o'⟩, us, rfl, rfl, -⟩ := kinds_eq_cons hus
    cases k <;> rfl

theorem applyTilde_ok_iff {tree tilded : Tree} {value : Option Single} {position : Nat} :
    applyTilde tree value position = .ok tilded ↔ Tilded tree value tilded := by
  constructor
  · intro hr
    unfold applyTilde at hr
    split at hr
    · split at hr
      · split at hr <;> cases hr
        exact .fuzzy fun s hs => by cases hs; assumption
      · cases hr
        exact .fuzzy fun s hs => by cases hs
    · cases hr
      exact .slop
    · cases hr
  · intro ht
    cases ht with
    | @fuzzy field text value inRange =>
      cases value with
      | none => rfl
      | some s => simp [applyTilde, inRange s rfl]
    | slop => rfl

theorem suffixes_sound {grouped : Bool} {tree result : Tree} {boost : Option Single}
    {tilde : Bool} {ts rest : List Token}
    (hr : suffixes grouped tree boost tilde ts = .ok (result, rest)) :
    ∃ front, ts = front ++ rest ∧ Suffixes grouped tree boost tilde (kinds front) result ∧
      next isModifier rest = false := by
  induction ts generalizing tree boost tilde with
  | nil =>
    cases hr
    exact ⟨[], rfl, .nil, rfl⟩
  | cons t ts ih =>
    obtain ⟨k, o⟩ := t
    cases k with
    | caret value =>
      cases value with
      | none => cases hr
      | some value =>
        simp only [suffixes] at hr
        split at hr
        · rename_i finite
          obtain ⟨front, rfl, hs, hstop⟩ := ih hr
          exact ⟨⟨.caret (some value), o⟩ :: front, rfl, .caret finite hs, hstop⟩
        · cases hr
    | tilde value =>
      simp only [suffixes] at hr
      split at hr
      · cases hr
      split at hr
      · cases hr
      split at hr
      · rename_i htilde hgrouped _ tilded happly
        obtain rfl : tilde = false := by simpa using htilde
        obtain ⟨front, rfl, hs, hstop⟩ := ih hr
        refine ⟨⟨.tilde value, o⟩ :: front, rfl, ?_, hstop⟩
        exact .tilde (by simpa using hgrouped) (applyTilde_ok_iff.mp happly) hs
      · cases hr
    | _ =>
      cases hr
      exact ⟨[], rfl, .nil, rfl⟩

theorem suffixes_complete {grouped : Bool} {tree result : Tree} {boost : Option Single}
    {tilde : Bool} {ks : List Token.Kind} (hs : Suffixes grouped tree boost tilde ks result)
    {front rest : List Token} (hk : kinds front = ks) (hstop : next isModifier rest = false) :
    suffixes grouped tree boost tilde (front ++ rest) = .ok (result, rest) := by
  induction hs generalizing front with
  | nil =>
    obtain rfl : front = [] := List.map_eq_nil_iff.mp hk
    cases rest with
    | nil => rfl
    | cons t rest =>
      obtain ⟨k, o⟩ := t
      cases k <;> first | rfl | cases hstop
  | caret finite _ ih =>
    obtain ⟨⟨k, o⟩, us, rfl, rfl, hus⟩ := kinds_eq_cons hk
    simpa [suffixes, finite] using ih hus
  | tilde ungrouped applied _ ih =>
    obtain ⟨⟨k, o⟩, us, rfl, rfl, hus⟩ := kinds_eq_cons hk
    subst ungrouped
    simpa [suffixes, applyTilde_ok_iff.mpr applied] using ih hus

theorem Suffixed.starts {ks : List Token.Kind} {t : Tree} (hs : Suffixed operator L ks t) :
    ∃ k rest, ks = k :: rest ∧ startsOperand k = true ∧ isSign k = false := by
  obtain ⟨hp, -⟩ := hs
  obtain ⟨k, rest, rfl, hk⟩ := hp.starts
  exact ⟨k, _, rfl, hk⟩

theorem suffixed_ok_iff (h : ReadsDeeper deeper L) {ts rest : List Token} {t : Tree} :
    suffixed operator limit deeper ts = .ok (t, rest) ↔
      ∃ front, ts = front ++ rest ∧ Suffixed operator L (kinds front) t ∧
        next isModifier rest = false := by
  constructor
  · intro hr
    obtain ⟨⟨tree, mid⟩, hprim, hsuff⟩ := Except.bind_eq_ok_iff.mp hr
    obtain ⟨front, rfl, hp⟩ := primary_sound h hprim
    rw [startsGroup_append hp] at hsuff
    obtain ⟨front', rfl, hs, hstop⟩ := suffixes_sound hsuff
    exact ⟨front ++ front', by simp, by simpa using Suffixed.intro hp hs, hstop⟩
  · rintro ⟨front, rfl, hs, hstop⟩
    generalize hk : kinds front = ks at hs
    obtain ⟨hp, hs⟩ := hs
    obtain ⟨us, vs, rfl, rfl, hvs⟩ := kinds_eq_append hk
    have hprim := primary_complete h hp limit (vs ++ rest)
    rw [List.append_assoc]
    refine Except.bind_eq_ok_iff.mpr ⟨_, hprim, ?_⟩
    rw [startsGroup_append hp]
    exact suffixes_complete hs hvs hstop

theorem ReadsDeeper.starts (h : ReadsDeeper deeper L) {ks : List Token.Kind} {t : Tree}
    (hl : L ks t) : ∃ k rest, ks = k :: rest ∧ startsOperand k = true := by
  cases deeper with
  | none => exact absurd hl (h ks t)
  | some unary => exact Reads.starts h hl

theorem signed_sound (h : ReadsDeeper deeper L) {ts rest : List Token} {t : Tree}
    (hr : signed operator limit deeper ts = .ok (t, rest)) :
    ∃ front, ts = front ++ rest ∧ Signed operator L (kinds front) t ∧
      next isModifier rest = false := by
  have plain (hr : suffixed operator limit deeper ts = .ok (t, rest)) :
      ∃ front, ts = front ++ rest ∧ Signed operator L (kinds front) t ∧
        next isModifier rest = false := by
    obtain ⟨front, hts, hs, hstop⟩ := (suffixed_ok_iff h).mp hr
    exact ⟨front, hts, .plain hs, hstop⟩
  cases ts with
  | nil => exact plain hr
  | cons first ts =>
    obtain ⟨k, o⟩ := first
    simp only [signed] at hr
    split at hr
    · rename_i hsign
      split at hr
      · cases deeper with
        | none => cases hr
        | some unary =>
          obtain ⟨⟨tree, after⟩, hunary, hmark⟩ := Except.bind_eq_ok_iff.mp hr
          obtain ⟨front, rfl, hl, hstop⟩ := Reads.ok_iff h |>.mp hunary
          refine ⟨⟨k, o⟩ :: front, ?_⟩
          cases k with
          | plus =>
            cases hmark
            exact ⟨rfl, .required hl, hstop⟩
          | minus =>
            cases hmark
            exact ⟨rfl, .prohibited (.inl rfl) hl, hstop⟩
          | not =>
            cases hmark
            exact ⟨rfl, .prohibited (.inr rfl) hl, hstop⟩
          | _ => cases hsign
      · cases hr
    · exact plain hr

theorem signed_complete (h : ReadsDeeper deeper L) {front rest : List Token} {t : Tree}
    (hs : Signed operator L (kinds front) t) (hstop : next isModifier rest = false) :
    signed operator limit deeper (front ++ rest) = .ok (t, rest) := by
  have marked {o : Nat} {k : Token.Kind} {us : List Token} {tree : Tree} (hsign : isSign k = true)
      (hl : L (kinds us) tree) :
      signed operator limit deeper (⟨k, o⟩ :: us ++ rest) =
        .ok (if k = .plus then .required tree else .prohibited tree, rest) := by
    obtain ⟨k', ks, hus, hstart⟩ := h.starts hl
    cases deeper with
    | none => exact absurd hl (h _ _)
    | some unary =>
      have hunary := Reads.ok_iff h |>.mpr ⟨us, rfl, hl, hstop⟩
      simp only [List.cons_append, signed, hsign, ↓reduceIte, next_append_of_head hus, hstart]
      exact Except.bind_eq_ok_iff.mpr ⟨_, hunary, rfl⟩
  generalize hk : kinds front = ks at hs
  cases hs with
  | required hl =>
    obtain ⟨⟨k, o⟩, us, rfl, rfl, rfl⟩ := kinds_eq_cons hk
    exact marked rfl hl
  | prohibited negative hl =>
    obtain ⟨⟨k, o⟩, us, rfl, rfl, rfl⟩ := kinds_eq_cons hk
    rcases negative with rfl | rfl
    · exact marked rfl hl
    · exact marked rfl hl
  | plain hs =>
    obtain ⟨k, ks, rfl, -, hsign⟩ := hs.starts
    obtain ⟨⟨k, o⟩, us, rfl, rfl, -⟩ := kinds_eq_cons hk
    simp only [List.cons_append, signed, hsign, Bool.false_eq_true, ↓reduceIte]
    exact (suffixed_ok_iff h).mpr ⟨_, rfl, hk ▸ hs, hstop⟩

theorem Reads.signed (h : ReadsDeeper deeper L) :
    Reads (signed operator limit deeper) (Signed operator L) isModifier where
  starts hs := by
    cases hs with
    | required _ => exact ⟨_, _, rfl, rfl⟩
    | prohibited negative _ => rcases negative with rfl | rfl <;> exact ⟨_, _, rfl, rfl⟩
    | plain hs =>
      obtain ⟨k, rest, rfl, hk, -⟩ := hs.starts
      exact ⟨k, rest, rfl, hk⟩
  ok_iff {ts rest t} := by
    constructor
    · exact signed_sound h
    · rintro ⟨front, rfl, hs, hstop⟩
      exact signed_complete h hs hstop

/-- The parser of operands reads the operands of the grammar, at every depth. -/
theorem reads_unary (operator : Operator) (limit depth : Nat) :
    Reads (unary operator limit depth) (Unary operator depth) isModifier := by
  induction depth with
  | zero =>
    have hnone : ReadsDeeper none fun _ _ => False := fun _ _ => id
    exact Reads.signed hnone
  | succ depth ih =>
    have hsome : ReadsDeeper (some (unary operator limit depth)) (Unary operator depth) := ih
    exact Reads.signed hsome

end SearchQuery.Grammar

namespace SearchQuery

/-- A token list has a tree exactly where all of it spells that tree. -/
theorem Tree.ofTokens_eq_ok_iff {tokens : List Token} {field : String} {operator : Operator}
    {maxDepth : Nat} {tree : Tree} :
    Tree.ofTokens tokens field operator maxDepth = .ok tree ↔
      ∃ t, tree = .scope field t ∧
        Grammar.Sequence operator (Grammar.Unary operator maxDepth) (Grammar.kinds tokens) t := by
  have hreads := Grammar.reads_unary operator maxDepth maxDepth
  constructor
  · intro hr
    unfold Tree.ofTokens at hr
    split at hr
    · cases hr
    · obtain ⟨⟨t, rest⟩, hseq, hend⟩ := Except.bind_eq_ok_iff.mp hr
      obtain ⟨front, rfl, hs, -⟩ := (Grammar.sequence_ok_iff operator hreads).mp hseq
      cases rest with
      | nil =>
        cases hend
        exact ⟨t, rfl, by simpa using hs⟩
      | cons => cases hend
  · rintro ⟨t, rfl, hs⟩
    obtain ⟨k, ks, hk, -⟩ := hs.starts operator hreads
    have hseq := (Grammar.sequence_ok_iff operator hreads).mpr
      ⟨tokens, (List.append_nil _).symm, hs, rfl⟩
    obtain ⟨first, others, rfl, -, -⟩ := Grammar.kinds_eq_cons hk
    exact Except.bind_eq_ok_iff.mpr ⟨_, hseq, rfl⟩

/-- The parser decides the grammar: it gives the tree that all of the tokens spell under the default
field, and a syntax error exactly if they spell none. -/
theorem Tree.ofTokens_decides (tokens : List Token) (field : String) (operator : Operator)
    (maxDepth : Nat) :
    (∀ t, Tree.ofTokens tokens field operator maxDepth = .ok (.scope field t) ↔
      Grammar.Sequence operator (Grammar.Unary operator maxDepth) (Grammar.kinds tokens) t) ∧
    ((∃ e, Tree.ofTokens tokens field operator maxDepth = .error e) ↔
      ∀ t, ¬ Grammar.Sequence operator (Grammar.Unary operator maxDepth)
        (Grammar.kinds tokens) t) := by
  have haccepts : ∀ t, Tree.ofTokens tokens field operator maxDepth = .ok (.scope field t) ↔
      Grammar.Sequence operator (Grammar.Unary operator maxDepth) (Grammar.kinds tokens) t := by
    intro t
    rw [Tree.ofTokens_eq_ok_iff]
    constructor
    · rintro ⟨t', heq, hread⟩
      cases heq
      exact hread
    · intro hread
      exact ⟨t, rfl, hread⟩
  refine ⟨haccepts, ?_⟩
  constructor
  · rintro ⟨e, herror⟩ t hread
    rw [(haccepts t).mpr hread] at herror
    cases herror
  · intro hnone
    cases hresult : Tree.ofTokens tokens field operator maxDepth with
    | error e => exact ⟨e, rfl⟩
    | ok tree =>
      obtain ⟨t, -, hread⟩ := Tree.ofTokens_eq_ok_iff.mp hresult
      exact absurd hread (hnone t)

end SearchQuery
