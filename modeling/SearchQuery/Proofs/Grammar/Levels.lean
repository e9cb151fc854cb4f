import SearchQuery.Except
import SearchQuery.Proofs.Grammar.Language

/-!
Parsers as readers of languages. A reader takes the longest spelling at the front of a token list:
it succeeds exactly where the tokens split into a spelling and a rest that does not go on with a
token that belongs to the spelling. Main statement: the levels of binary operators and the
sequences over a reader read their languages.
-/

namespace SearchQuery.Grammar

/-- A parser reads a language: it succeeds where the tokens are a spelling and a rest that does not
go on with a token that would belong to the spelling. -/
structure Reads (p : Parse) (L : Language) (goesOn : Token.Kind → Bool) : Prop where
  starts : ∀ {ks : List Token.Kind} {t : Tree}, L ks t →
    ∃ k rest, ks = k :: rest ∧ startsOperand k = true
  ok_iff : ∀ {ts rest : List Token} {t : Tree}, p ts = .ok (t, rest) ↔
    ∃ front, ts = front ++ rest ∧ L (kinds front) t ∧ next goesOn rest = false

@[simp] theorem kinds_nil : kinds [] = [] := rfl

@[simp] theorem kinds_cons (t : Token) (ts : List Token) :
    kinds (t :: ts) = t.kind :: kinds ts := rfl

@[simp] theorem kinds_append (ts us : List Token) : kinds (ts ++ us) = kinds ts ++ kinds us :=
  List.map_append

@[simp] theorem next_nil (test : Token.Kind → Bool) : next test [] = false := rfl

@[simp] theorem next_cons (test : Token.Kind → Bool) (t : Token) (ts : List Token) :
    next test (t :: ts) = test t.kind := rfl

theorem next_append_of_head {test : Token.Kind → Bool} {ts rest : List Token} {k : Token.Kind}
    {ks : List Token.Kind} (h : kinds ts = k :: ks) : next test (ts ++ rest) = test k := by
  cases ts with
  | nil => cases h
  | cons t ts =>
    cases h
    rfl

theorem kinds_eq_append {ts : List Token} {ks ls : List Token.Kind} (h : kinds ts = ks ++ ls) :
    ∃ us vs, ts = us ++ vs ∧ kinds us = ks ∧ kinds vs = ls :=
  List.map_eq_append_iff.mp h

theorem kinds_eq_cons {ts : List Token} {k : Token.Kind} {ks : List Token.Kind}
    (h : kinds ts = k :: ks) : ∃ t us, ts = t :: us ∧ t.kind = k ∧ kinds us = ks :=
  List.map_eq_cons_iff.mp h

variable {p : Parse} {L : Language} {goesOn : Token.Kind → Bool}

theorem operands_stop {operator : Token.Kind} {n : Nat} {ts : List Token}
    (h : next (· == operator) ts = false) : operands operator p n ts = .ok ([], ts) := by
  cases n with
  | zero => rfl
  | succ n =>
    cases ts with
    | nil => rfl
    | cons t ts => simp_all [operands]

/-- The loop of a level takes operators and operands as long as there are any. The bound on its
rounds is never reached, since each operand takes a token. -/
theorem operands_sound (h : Reads p L goesOn) {operator : Token.Kind} {n : Nat}
    {ts rest : List Token} {trees : List Tree} (hn : ts.length ≤ n)
    (hts : next goesOn ts = false) (hr : operands operator p n ts = .ok (trees, rest)) :
    ∃ front, ts = front ++ rest ∧ Others operator L (kinds front) trees ∧
      next (fun k => goesOn k || k == operator) rest = false := by
  induction n generalizing ts trees with
  | zero =>
    obtain rfl : ts = [] := List.eq_nil_of_length_eq_zero (by omega)
    cases hr
    exact ⟨[], rfl, .nil, rfl⟩
  | succ n ih =>
    cases ts with
    | nil =>
      cases hr
      exact ⟨[], rfl, .nil, rfl⟩
    | cons t ts =>
      simp only [operands] at hr
      split at hr
      · rename_i ht
        split at hr
        · obtain ⟨⟨tree, after⟩, hp, hr⟩ := Except.bind_eq_ok_iff.mp hr
          obtain ⟨⟨others, last⟩, ho, hr⟩ := Except.bind_eq_ok_iff.mp hr
          cases hr
          obtain ⟨front, rfl, hl, hstop⟩ := h.ok_iff.mp hp
          simp only [List.length_cons, List.length_append] at hn
          obtain ⟨front', rfl, ho', hstop'⟩ := ih (by omega) hstop ho
          exact ⟨t :: (front ++ front'), by simp, by simpa [ht] using Others.cons hl ho', hstop'⟩
        · cases hr
      · rename_i ht
        cases hr
        exact ⟨[], rfl, .nil, by simpa [ht] using hts⟩

theorem operands_complete (h : Reads p L goesOn) {operator : Token.Kind}
    (hop : goesOn operator = false) {ks : List Token.Kind} {trees : List Tree}
    (ho : Others operator L ks trees) {n : Nat} {front rest : List Token}
    (hk : kinds front = ks) (hn : front.length ≤ n)
    (hstop : next (fun k => goesOn k || k == operator) rest = false) :
    next goesOn (front ++ rest) = false ∧
      operands operator p n (front ++ rest) = .ok (trees, rest) := by
  have hrest : next goesOn rest = false ∧ next (· == operator) rest = false := by
    cases rest with
    | nil => exact ⟨rfl, rfl⟩
    | cons r rest => exact Bool.or_eq_false_iff.mp hstop
  induction ho generalizing n front with
  | nil =>
    obtain rfl : front = [] := List.map_eq_nil_iff.mp hk
    exact ⟨hrest.1, operands_stop hrest.2⟩
  | @cons ks ls first trees hl _ ih =>
    obtain ⟨t, us, rfl, ht, hus⟩ := kinds_eq_cons hk
    obtain ⟨us, vs, rfl, rfl, hvs⟩ := kinds_eq_append hus
    obtain ⟨k, ks, hus, hstart⟩ := h.starts hl
    refine ⟨by simp [ht, hop], ?_⟩
    cases n with
    | zero => simp at hn
    | succ n =>
      simp only [List.length_cons, List.length_append] at hn
      obtain ⟨hgo, hops⟩ := ih hvs (by omega : vs.length ≤ n)
      have hp := h.ok_iff.mpr ⟨us, rfl, hl, hgo⟩
      simp only [List.cons_append, List.append_assoc, operands, ht, ↓reduceIte,
        next_append_of_head hus, hstart]
      exact Except.bind_eq_ok_iff.mpr ⟨_, hp, Except.bind_eq_ok_iff.mpr ⟨_, hops, rfl⟩⟩

/-- A level over a reader reads the language of the level. -/
theorem Reads.level (h : Reads p L goesOn) (operator : Token.Kind) (junction : Junction)
    (hop : goesOn operator = false) :
    Reads (level operator junction p) (Level operator junction L)
      (fun k => goesOn k || k == operator) where
  starts hl := by
    cases hl with
    | single only => exact h.starts only
    | several first _ =>
      obtain ⟨k, ks, rfl, hk⟩ := h.starts first
      exact ⟨k, _, rfl, hk⟩
  ok_iff {ts rest t} := by
    constructor
    · intro hr
      obtain ⟨⟨first, mid⟩, hp, hr⟩ := Except.bind_eq_ok_iff.mp hr
      obtain ⟨⟨others, last⟩, ho, hr⟩ := Except.bind_eq_ok_iff.mp hr
      cases hr
      obtain ⟨front, rfl, hl, hstop⟩ := h.ok_iff.mp hp
      obtain ⟨front', rfl, ho', hstop'⟩ := operands_sound h (Nat.le_refl _) hstop ho
      refine ⟨front ++ front', by simp, ?_, hstop'⟩
      rw [kinds_append]
      cases others with
      | nil =>
        cases hf : kinds front' with
        | nil => simpa [hf] using Level.single hl
        | cons k ks =>
          rw [hf] at ho'
          cases ho'
      | cons u us => exact .several hl ho'
    · rintro ⟨front, rfl, hl, hstop⟩
      generalize hk : kinds front = ks at hl
      cases hl with
      | single only =>
        obtain ⟨hgo, hops⟩ := operands_complete h hop .nil rfl
          (by simp : ([] : List Token).length ≤ rest.length) hstop
        subst hk
        exact Except.bind_eq_ok_iff.mpr ⟨_, h.ok_iff.mpr ⟨front, rfl, only, hgo⟩,
          Except.bind_eq_ok_iff.mpr ⟨_, hops, rfl⟩⟩
      | several first others =>
        obtain ⟨us, vs, rfl, rfl, hvs⟩ := kinds_eq_append hk
        obtain ⟨hgo, hops⟩ := operands_complete h hop others hvs
          (by simp : vs.length ≤ (vs ++ rest).length) hstop
        exact Except.bind_eq_ok_iff.mpr ⟨_, h.ok_iff.mpr ⟨us, by simp, first, hgo⟩,
          Except.bind_eq_ok_iff.mpr ⟨_, hops, rfl⟩⟩

/-- The tokens that go on after an operand of the level of `OR`. -/
def continues : Token.Kind → Bool
  | .caret _ | .tilde _ | .not | .and | .or => true
  | _ => false

/-- Whether a token is written after its operand. -/
def isModifier : Token.Kind → Bool
  | .caret _ | .tilde _ => true
  | _ => false

theorem Reads.either (h : Reads p L isModifier) : Reads (either p) (Either L) continues := by
  have hlevels := ((h.level .not .not rfl).level .and .and rfl).level .or .or rfl
  have hgo : (fun k => ((isModifier k || k == .not) || k == .and) || k == .or) = continues := by
    funext k
    cases k <;> rfl
  exact hgo ▸ hlevels

theorem Elements.starts {ks : List Token.Kind} {trees : List Tree} (h : Reads p L goesOn)
    (he : Elements L ks trees) : ∃ k rest, ks = k :: rest ∧ startsOperand k = true := by
  cases he with
  | single only => exact h.starts only
  | cons first _ _ =>
    obtain ⟨k, ks, rfl, hk⟩ := h.starts first
    exact ⟨k, _, rfl, hk⟩

theorem Elements.of_singleton {ks : List Token.Kind} {t : Tree} (he : Elements L ks [t]) :
    L ks t := by
  cases he with
  | single only => exact only
  | cons _ others _ => cases others

theorem continues_of_startsOperand {k : Token.Kind} (h : startsOperand k = true) (hn : k ≠ .not) :
    continues k = false := by
  cases k <;> simp_all [startsOperand, continues]

/-- A sequence ends at the end of the tokens or at a closing parenthesis. -/
def inSequence (k : Token.Kind) : Bool := k != .rightParen

theorem continues_of_end {rest : List Token} (h : next inSequence rest = false) :
    next continues rest = false := by
  cases rest with
  | nil => rfl
  | cons t rest =>
    have ht : t.kind = .rightParen := by simpa [inSequence] using h
    simp [ht, continues]

theorem elements_sound (h : Reads p L continues) {n : Nat} {ts rest : List Token}
    {trees : List Tree} (hn : ts.length ≤ n) (hr : elements p n ts = .ok (trees, rest)) :
    ∃ front, ts = front ++ rest ∧
      (front = [] ∧ trees = [] ∨ Elements L (kinds front) trees) ∧
      next inSequence rest = false := by
  induction n generalizing ts trees with
  | zero =>
    obtain rfl : ts = [] := List.eq_nil_of_length_eq_zero (by omega)
    cases hr
    exact ⟨[], rfl, .inl ⟨rfl, rfl⟩, rfl⟩
  | succ n ih =>
    cases ts with
    | nil =>
      cases hr
      exact ⟨[], rfl, .inl ⟨rfl, rfl⟩, rfl⟩
    | cons t ts =>
      simp only [elements] at hr
      split at hr
      · rename_i ht
        cases hr
        exact ⟨[], rfl, .inl ⟨rfl, rfl⟩, by simp [inSequence, ht]⟩
      · obtain ⟨⟨tree, after⟩, hp, hr⟩ := Except.bind_eq_ok_iff.mp hr
        obtain ⟨⟨others, last⟩, he, hr⟩ := Except.bind_eq_ok_iff.mp hr
        cases hr
        obtain ⟨front, hts, hl, hstop⟩ := h.ok_iff.mp hp
        obtain ⟨k, ks, hfront, -⟩ := h.starts hl
        have hlen : (t :: ts).length = front.length + after.length := by simp [hts]
        have hpos : 0 < front.length := by
          cases front with
          | nil => cases hfront
          | cons => simp
        have hafter : after.length ≤ n := by omega
        obtain ⟨front', rfl, he' | he', hstop'⟩ := ih hafter he
        · obtain ⟨rfl, rfl⟩ := he'
          exact ⟨front, hts, .inr (.single hl), hstop'⟩
        · refine ⟨front ++ front', by simp [hts], .inr ?_, hstop'⟩
          rw [kinds_append]
          refine .cons hl he' ?_
          obtain ⟨k, ks, hk, -⟩ := he'.starts h
          rw [next_append_of_head hk] at hstop
          rintro hnot
          simp only [hk, List.head?_cons, Option.some.injEq] at hnot
          simp [hnot, continues] at hstop

theorem elements_complete (h : Reads p L continues) {ks : List Token.Kind} {trees : List Tree}
    (he : Elements L ks trees) {n : Nat} {front rest : List Token} (hk : kinds front = ks)
    (hn : front.length ≤ n) (hstop : next inSequence rest = false) :
    elements p n (front ++ rest) = .ok (trees, rest) := by
  have hend (n : Nat) : elements p n rest = .ok ([], rest) := by
    cases n with
    | zero => rfl
    | succ n =>
      cases rest with
      | nil => rfl
      | cons r rest => simp_all [elements, inSequence]
  have step {n : Nat} {us vs : List Token} {tree : Tree} {trees : List Tree}
      (hl : L (kinds us) tree) (hvs : next continues vs = false) (hn : us.length ≤ n + 1)
      (hmore : elements p n vs = .ok (trees, rest)) :
      elements p (n + 1) (us ++ vs) = .ok (tree :: trees, rest) := by
    have hp := h.ok_iff.mpr ⟨us, rfl, hl, hvs⟩
    obtain ⟨k, ks, hk, hstart⟩ := h.starts hl
    obtain ⟨t, us, rfl, rfl, -⟩ := kinds_eq_cons hk
    have ht : t.kind ≠ .rightParen := fun ht => by simp [ht, startsOperand] at hstart
    simp only [List.cons_append, elements, ht, ↓reduceIte]
    exact Except.bind_eq_ok_iff.mpr ⟨_, hp, Except.bind_eq_ok_iff.mpr ⟨_, hmore, rfl⟩⟩
  induction he generalizing n front with
  | single only =>
    subst hk
    obtain ⟨k, ks, hk, -⟩ := h.starts only
    obtain ⟨t, us, rfl, -, -⟩ := kinds_eq_cons hk
    cases n with
    | zero => simp at hn
    | succ n => exact step only (continues_of_end hstop) hn (hend n)
  | cons first others notInfix ih =>
    obtain ⟨us, vs, rfl, rfl, hvs⟩ := kinds_eq_append hk
    obtain ⟨k, ks, hus, -⟩ := h.starts first
    obtain ⟨t, us, rfl, -, -⟩ := kinds_eq_cons hus
    obtain ⟨k', ks', hk', hstart⟩ := others.starts h
    have hgo : next continues (vs ++ rest) = false := by
      rw [next_append_of_head (hvs.trans hk')]
      refine continues_of_startsOperand hstart ?_
      rintro rfl
      simp [hk'] at notInfix
    cases n with
    | zero => simp at hn
    | succ n =>
      simp only [List.length_cons, List.length_append] at hn
      rw [List.append_assoc]
      exact step first hgo (by simp; omega) (ih hvs (by omega))

theorem sequence_ok_iff (operator : Operator) (h : Reads p L isModifier) {ts rest : List Token}
    {t : Tree} : sequence operator p ts = .ok (t, rest) ↔
      ∃ front, ts = front ++ rest ∧ Sequence operator L (kinds front) t ∧
        next inSequence rest = false := by
  constructor
  · intro hr
    obtain ⟨⟨trees, last⟩, hels, hr⟩ := Except.bind_eq_ok_iff.mp hr
    obtain ⟨front, rfl, ⟨-, rfl⟩ | he, hstop⟩ := elements_sound h.either (Nat.le_refl _) hels
    · cases hr
    · cases trees with
      | nil => cases hr
      | cons first others =>
        cases others with
        | nil =>
          cases hr
          exact ⟨front, rfl, .single he.of_singleton, hstop⟩
        | cons second others =>
          cases hr
          exact ⟨front, rfl, .several he, hstop⟩
  · rintro ⟨front, rfl, hs, hstop⟩
    have hn : front.length ≤ (front ++ rest).length := by simp
    generalize hk : kinds front = ks at hs
    cases hs with
    | single only =>
      have he := elements_complete h.either (.single only) hk hn hstop
      exact Except.bind_eq_ok_iff.mpr ⟨_, he, rfl⟩
    | several all =>
      have he := elements_complete h.either all hk hn hstop
      exact Except.bind_eq_ok_iff.mpr ⟨_, he, rfl⟩

theorem Sequence.starts (operator : Operator) (h : Reads p L isModifier) {ks : List Token.Kind}
    {t : Tree} (hs : Sequence operator L ks t) :
    ∃ k rest, ks = k :: rest ∧ startsOperand k = true := by
  cases hs with
  | single only => exact h.either.starts only
  | several all => exact all.starts h.either

end SearchQuery.Grammar
