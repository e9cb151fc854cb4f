import Mathlib.Tactic.Common
import SearchQuery.Number.Single

/-!
Products of single-precision numbers. One is neutral, and what has no minus sign keeps having none.
-/

namespace SearchQuery.Number.Single

attribute [local instance (high)] instPowNat

/-- Finite and without a minus sign. -/
def isUnsigned : Single → Bool
  | .finite negative _ => !negative
  | _ => false

theorem isFinite_of_isUnsigned {x : Single} (h : x.isUnsigned = true) : x.isFinite = true := by
  cases x with
  | nan => cases h
  | infinite => cases h
  | finite => rfl

theorem exists_of_isUnsigned {x : Single} (h : x.isUnsigned = true) : ∃ m, x = .finite false m := by
  cases x with
  | nan => cases h
  | infinite => cases h
  | finite negative m =>
    cases negative with
    | false => exact ⟨m, rfl⟩
    | true => cases h

theorem unitsPerOne_pos : 0 < unitsPerOne := Nat.two_pow_pos _

/-- One is neutral on the left. -/
theorem one_mul {x : Single} (h : x.isFinite = true) : one.mul x = x := by
  cases x with
  | nan => cases h
  | infinite => cases h
  | finite negative m =>
    rw [one, mul, Nat.mul_comm, ofRatio_units _ m.fits unitsPerOne_pos]
    cases negative <;> rfl

theorem product_singleton {x : Single} (h : x.isFinite = true) : product [x] = x := one_mul h

/-- The only number without a sign that equals one is one. -/
theorem eq_one_of_numEq {x : Single} (h : x.isUnsigned = true) (heq : x.numEq one = true) :
    x = one := by
  obtain ⟨m, rfl⟩ := exists_of_isUnsigned h
  obtain ⟨units, fits⟩ := m
  simp only [numEq, one, Bool.and_eq_true, beq_iff_eq] at heq
  obtain ⟨rfl, -⟩ := heq
  rfl

theorem isUnsigned_ofRatio {num den : Nat} (h : (ofRatio false num den).isFinite = true) :
    (ofRatio false num den).isUnsigned = true := by
  by_cases hlt : Format.single.round num den < 2 ^ Format.single.ceiling
  · rw [ofRatio, dif_pos hlt]
    rfl
  · rw [ofRatio, dif_neg hlt] at h
    cases h

theorem isUnsigned_ofDecimal {d : Decimal} (h : (ofDecimal d).isFinite = true) :
    (ofDecimal d).isUnsigned = true :=
  isUnsigned_ofRatio h

/-- A product without a sign and finite has no sign. -/
theorem isUnsigned_mul {x y : Single} (hx : x.isUnsigned = true) (hy : y.isUnsigned = true)
    (h : (x.mul y).isFinite = true) : (x.mul y).isUnsigned = true := by
  obtain ⟨m, rfl⟩ := exists_of_isUnsigned hx
  obtain ⟨n, rfl⟩ := exists_of_isUnsigned hy
  exact isUnsigned_ofRatio h

/-- Without a minus sign, if it is a number at all. -/
def isPlus : Single → Bool
  | .nan => true
  | .infinite negative => !negative
  | .finite negative _ => !negative

theorem isPlus_of_isUnsigned {x : Single} (h : x.isUnsigned = true) : x.isPlus = true := by
  obtain ⟨m, rfl⟩ := exists_of_isUnsigned h
  rfl

theorem belowZero_of_isPlus {x : Single} (h : x.isPlus = true) : x.belowZero = false := by
  cases x with
  | nan => rfl
  | infinite negative => simpa [isPlus, belowZero] using h
  | finite negative m => simp_all [isPlus, belowZero]

theorem isPlus_ofRatio (num den : Nat) : (ofRatio false num den).isPlus = true := by
  unfold ofRatio
  split <;> rfl

theorem isPlus_mul {x y : Single} (hx : x.isPlus = true) (hy : y.isPlus = true) :
    (x.mul y).isPlus = true := by
  match x, y with
  | .nan, _ => simp [mul, isPlus]
  | .infinite _, .nan => rfl
  | .finite _ _, .nan => rfl
  | .infinite false, .infinite false => rfl
  | .infinite false, .finite false m =>
    by_cases hm : m.units = 0 <;> simp [mul, hm, isPlus]
  | .finite false m, .infinite false =>
    by_cases hm : m.units = 0 <;> simp [mul, hm, isPlus]
  | .finite false m, .finite false n => exact isPlus_ofRatio _ _

/-- Nothing makes an infinity, or what is not a number, finite again. -/
theorem isFinite_of_isFinite_mul {x y : Single} (h : (x.mul y).isFinite = true) :
    x.isFinite = true := by
  match x, y with
  | .finite _ _, _ => rfl
  | .nan, _ => simp [mul, isFinite] at h
  | .infinite _, .nan => cases h
  | .infinite _, .infinite _ => cases h
  | .infinite _, .finite _ m =>
    by_cases hm : m.units = 0 <;> simp [mul, hm, isFinite] at h

/-- What is not finite makes no finite product with one. -/
theorem isFinite_of_isFinite_one_mul {x : Single} (h : (one.mul x).isFinite = true) :
    x.isFinite = true := by
  cases x with
  | nan => cases h
  | infinite => cases h
  | finite => rfl

end SearchQuery.Number.Single
