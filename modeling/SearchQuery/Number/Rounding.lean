/-!
Rounding a ratio to a binary floating-point format. Every magnitude of a format is a whole number
of units, a unit being the least positive value of the format, so that rounding is arithmetic on
natural numbers. Main statements: the result of rounding fits the format, and a magnitude that fits
is its own rounding.
-/

namespace SearchQuery.Number

attribute [local instance (high)] instPowNat

/-- A binary format: `precision` significant bits, units of `2 ^ -scale`, and `2 ^ ceiling` units
as the first magnitude that is too large. -/
structure Format where
  precision : Nat
  scale : Nat
  ceiling : Nat
  precision_pos : 0 < precision := by decide

namespace Format

/-- Single precision. -/
def single : Format := ⟨24, 149, 277, by decide⟩

/-- Double precision. -/
def double : Format := ⟨53, 1074, 2098, by decide⟩

end Format

/-- The natural number nearest to `num / den`; a half goes to the even neighbour. -/
def halfEven (num den : Nat) : Nat :=
  if 2 * (num % den) < den then num / den
  else if den < 2 * (num % den) then num / den + 1
  else num / den + num / den % 2

theorem halfEven_le_succ (num den : Nat) : halfEven num den ≤ num / den + 1 := by
  unfold halfEven
  split
  · omega
  · split <;> omega

@[simp] theorem halfEven_mul (n : Nat) {den : Nat} (h : 0 < den) : halfEven (n * den) den = n := by
  simp [halfEven, Nat.mul_div_cancel _ h, h]

theorem halfEven_mul_left (k num den : Nat) (h : 0 < k) :
    halfEven (k * num) (k * den) = halfEven num den := by
  have hd : k * num / (k * den) = num / den := Nat.mul_div_mul_left num den h
  have hm : k * num % (k * den) = k * (num % den) := Nat.mul_mod_mul_left k num den
  have hlt : 2 * (k * (num % den)) < k * den ↔ 2 * (num % den) < den := by
    rw [show 2 * (k * (num % den)) = k * (2 * (num % den)) by ac_rfl]
    exact Nat.mul_lt_mul_left h
  have hgt : k * den < 2 * (k * (num % den)) ↔ den < 2 * (num % den) := by
    rw [show 2 * (k * (num % den)) = k * (2 * (num % den)) by ac_rfl]
    exact Nat.mul_lt_mul_left h
  simp only [halfEven, hd, hm, hlt, hgt]

namespace Format

/-- How many low bits a magnitude with integer part `n` cannot keep. -/
def spare (f : Format) (n : Nat) : Nat := n.log2 + 1 - f.precision

/-- The magnitude of the format nearest to `num / den` units; a half goes to the neighbour with an
even significand. -/
def round (f : Format) (num den : Nat) : Nat :=
  halfEven num (den * 2 ^ f.spare (num / den)) * 2 ^ f.spare (num / den)

/-- A whole number of units that the format holds if its exponent may grow without bound. -/
def Significant (f : Format) (n : Nat) : Prop :=
  ∃ m e : Nat, m < 2 ^ f.precision ∧ n = m * 2 ^ e

/-- A finite magnitude of the format. -/
def Fits (f : Format) (n : Nat) : Prop := n < 2 ^ f.ceiling ∧ f.Significant n

theorem significant_mul_two_pow (f : Format) {m : Nat} (e : Nat) (h : m ≤ 2 ^ f.precision) :
    f.Significant (m * 2 ^ e) := by
  by_cases hlt : m < 2 ^ f.precision
  · exact ⟨m, e, hlt, rfl⟩
  · have hm : m = 2 ^ f.precision := by omega
    refine ⟨1, f.precision + e, Nat.one_lt_two_pow (by have := f.precision_pos; omega), ?_⟩
    rw [hm, Nat.one_mul, Nat.pow_add]

theorem fits_two_pow (f : Format) {e : Nat} (h : e < f.ceiling) : f.Fits (2 ^ e) :=
  ⟨Nat.pow_lt_pow_right (by decide) h, 1, e,
    Nat.one_lt_two_pow (by have := f.precision_pos; omega), (Nat.one_mul _).symm⟩

theorem fits_zero (f : Format) : f.Fits 0 :=
  ⟨Nat.two_pow_pos _, 0, 0, Nat.two_pow_pos _, rfl⟩

theorem lt_two_pow_spare (f : Format) (n : Nat) : n < 2 ^ f.precision * 2 ^ f.spare n := by
  have hn : n < 2 ^ (n.log2 + 1) := Nat.lt_log2_self
  have he : n.log2 + 1 ≤ f.precision + f.spare n := by unfold spare; omega
  rw [← Nat.pow_add]
  exact Nat.lt_of_lt_of_le hn (Nat.pow_le_pow_right (by decide) he)

/-- Rounding yields a magnitude with few enough significant bits. -/
theorem significant_round (f : Format) (num den : Nat) : f.Significant (f.round num den) := by
  apply f.significant_mul_two_pow
  have hq : num / (den * 2 ^ f.spare (num / den)) < 2 ^ f.precision := by
    rw [← Nat.div_div_eq_div_mul]
    exact Nat.div_lt_of_lt_mul (by rw [Nat.mul_comm]; exact f.lt_two_pow_spare (num / den))
  have := halfEven_le_succ num (den * 2 ^ f.spare (num / den))
  omega

/-- Rounding depends on the ratio alone. -/
theorem round_mul_left (f : Format) (k num den : Nat) (h : 0 < k) :
    f.round (k * num) (k * den) = f.round num den := by
  unfold round
  rw [Nat.mul_div_mul_left num den h, Nat.mul_assoc, halfEven_mul_left _ _ _ h]

theorem two_pow_spare_dvd (f : Format) {n : Nat} (h : f.Significant n) : 2 ^ f.spare n ∣ n := by
  obtain ⟨m, e, hm, rfl⟩ := h
  by_cases hz : m * 2 ^ e = 0
  · rw [hz]; exact Nat.dvd_zero _
  · have hlt : m * 2 ^ e < 2 ^ (f.precision + e) := by
      rw [Nat.pow_add]
      exact Nat.mul_lt_mul_of_pos_right hm (Nat.two_pow_pos e)
    have hlog : (m * 2 ^ e).log2 < f.precision + e := (Nat.log2_lt hz).mpr hlt
    have hle : f.spare (m * 2 ^ e) ≤ e := by unfold spare; omega
    exact Nat.dvd_mul_left_of_dvd (Nat.pow_dvd_pow 2 hle) m

/-- A magnitude of the format is its own rounding. -/
theorem round_of_significant (f : Format) {n den : Nat} (h : f.Significant n) (hd : 0 < den) :
    f.round (n * den) den = n := by
  obtain ⟨k, hk⟩ := f.two_pow_spare_dvd h
  unfold round
  rw [Nat.mul_div_cancel _ hd]
  have hn : n * den = k * (den * 2 ^ f.spare n) := by
    conv => lhs; rw [hk]
    ac_rfl
  rw [hn, halfEven_mul k (Nat.mul_pos hd (Nat.two_pow_pos _)), Nat.mul_comm, ← hk]

end Format

end SearchQuery.Number
