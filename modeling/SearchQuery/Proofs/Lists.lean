import Mathlib.Data.List.Forall2
import Mathlib.Data.List.TakeWhile

/-!
Facts about lists that several parts of the theory share: where a text stops passing a test, tests
that agree on a list, and lists whose members are related one by one.
-/

namespace List

variable {α β : Type}

/-! ## Where a list stops -/

theorem takeWhile_append_of_stop {test : α → Bool} {front rest : List α}
    (h : rest.takeWhile test = []) : (front ++ rest).takeWhile test = front.takeWhile test := by
  rw [takeWhile_append, h, append_nil]
  split
  · rename_i hlen
    exact ((takeWhile_sublist test).eq_of_length hlen).symm
  · rfl

/-- A list is split in one way only where a test fails for the first time. -/
theorem append_inj_of_stop {test : α → Bool} {front front' rest rest' : List α}
    (h : ∀ a ∈ front, test a = true) (h' : ∀ a ∈ front', test a = true)
    (stop : rest.takeWhile test = []) (stop' : rest'.takeWhile test = [])
    (heq : front ++ rest = front' ++ rest') : front = front' ∧ rest = rest' := by
  have hfront : front = front' := by
    have htake := congrArg (List.takeWhile test) heq
    rwa [takeWhile_append_of_pos h, takeWhile_append_of_pos h', stop, stop', append_nil,
      append_nil] at htake
  subst hfront
  exact ⟨rfl, append_cancel_left heq⟩

theorem head?_append_ne {rest : List α} {a : α} (h : rest.head? ≠ some a) (front : List α) :
    (front ++ rest).head? = some a ↔ front.head? = some a := by
  cases front with
  | nil => simp [h]
  | cons => simp

theorem intercalate_cons_eq_append (sep first : List α) (others : List (List α)) :
    ∃ rest, sep.intercalate (first :: others) = first ++ rest := by
  cases others with
  | nil => exact ⟨[], by rw [intercalate_singleton, append_nil]⟩
  | cons second others =>
    exact ⟨_, by rw [intercalate_cons_cons, append_assoc]⟩

/-! ## Tests that agree -/

theorem all_congr_mem {l : List α} {p q : α → Bool} (h : ∀ a ∈ l, p a = q a) :
    l.all p = l.all q := by
  rw [Bool.eq_iff_iff, all_eq_true, all_eq_true]
  exact forall₂_congr fun a ha => by rw [h a ha]

theorem any_congr_mem {l : List α} {p q : α → Bool} (h : ∀ a ∈ l, p a = q a) :
    l.any p = l.any q := by
  rw [Bool.eq_iff_iff, any_eq_true, any_eq_true]
  exact exists_congr fun a => and_congr_right fun ha => by rw [h a ha]

theorem takeWhile_dropWhile_congr {l : List α} {p q : α → Bool} (h : ∀ a ∈ l, p a = q a) :
    l.takeWhile p = l.takeWhile q ∧ l.dropWhile p = l.dropWhile q := by
  induction l with
  | nil => exact ⟨rfl, rfl⟩
  | cons a l ih =>
    rw [forall_mem_cons] at h
    obtain ⟨htake, hdrop⟩ := ih h.2
    simp [takeWhile_cons, dropWhile_cons, h.1, htake, hdrop]

/-! ## Lists related one by one -/

namespace Forall₂

variable {R : α → β → Prop} {as : List α} {bs : List β}

theorem exists_of_mem_right (h : Forall₂ R as bs) {b : β} (hb : b ∈ bs) : ∃ a ∈ as, R a b := by
  induction h with
  | nil => cases hb
  | @cons a b' as bs hr _ ih =>
    rcases mem_cons.mp hb with rfl | hb
    · exact ⟨a, mem_cons_self, hr⟩
    · obtain ⟨a', ha', hr'⟩ := ih hb
      exact ⟨a', mem_cons_of_mem a ha', hr'⟩

theorem forall_mem_iff {p : α → Prop} {q : β → Prop} (h : Forall₂ R as bs)
    (hpq : ∀ a b, R a b → (p a ↔ q b)) : (∀ a ∈ as, p a) ↔ ∀ b ∈ bs, q b := by
  induction h with
  | nil => simp
  | cons hr _ ih => rw [forall_mem_cons, forall_mem_cons, hpq _ _ hr, ih]

end Forall₂

end List
