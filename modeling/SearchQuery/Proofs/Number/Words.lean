import SearchQuery.Proofs.Number.Canonical

/-!
Whole numbers that pass through single precision. Rounding does not depend on the units that a
number is counted in, so a whole number rounds as it does in units of the format. Main statement: a
word that is written in digits and read as a single comes back as the nearest number of few enough
bits, clamped to a word, and so as itself exactly if it has few enough bits or is the largest word.
-/

namespace SearchQuery.Number

attribute [local instance (high)] instPowNat

namespace Format

theorem round_eq_self_iff (f : Format) (n : Nat) : f.round n 1 = n ↔ f.Significant n := by
  constructor
  · intro h
    exact h ▸ f.significant_round n 1
  · intro h
    have hround := f.round_of_significant h Nat.one_pos
    rwa [Nat.mul_one] at hround

theorem log2_mul_two_pow {n : Nat} (h : n ≠ 0) (k : Nat) : (n * 2 ^ k).log2 = n.log2 + k := by
  induction k with
  | zero => rw [Nat.pow_zero, Nat.mul_one, Nat.add_zero]
  | succ k ih =>
    have hne : n * 2 ^ k ≠ 0 := Nat.mul_ne_zero h (Nat.two_pow_pos k).ne'
    rw [Nat.pow_succ, ← Nat.mul_assoc, Nat.mul_comm _ 2, Nat.log2_two_mul hne, ih]
    rfl

/-- A number that loses bits loses as many in smaller units, and the units beside. -/
theorem spare_mul_two_pow (f : Format) {n : Nat} (h : 2 ^ f.precision ≤ n) (k : Nat) :
    f.spare (n * 2 ^ k) = f.spare n + k := by
  have hne : n ≠ 0 := Nat.ne_of_gt (Nat.lt_of_lt_of_le (Nat.two_pow_pos _) h)
  have hlog : f.precision ≤ n.log2 := (Nat.le_log2 hne).mpr h
  rw [spare, spare, log2_mul_two_pow hne]
  omega

/-- A number rounds alike in units of any power of two. -/
theorem round_mul_two_pow (f : Format) (n k : Nat) :
    f.round (n * 2 ^ k) 1 = f.round n 1 * 2 ^ k := by
  -- A number of few bits keeps them in any units. It is taken apart from the others because its bits
  -- may be spare in the smaller units only.
  by_cases hfew : f.Significant n
  · have hmore : f.Significant (n * 2 ^ k) := by
      obtain ⟨m, e, hm, rfl⟩ := hfew
      exact ⟨m, e + k, hm, by rw [Nat.pow_add, Nat.mul_assoc]⟩
    rw [(f.round_eq_self_iff n).mpr hfew, (f.round_eq_self_iff _).mpr hmore]
  · have hlarge : 2 ^ f.precision ≤ n := by
      by_contra hsmall
      exact hfew ⟨n, 0, Nat.lt_of_not_le hsmall, (Nat.mul_one n).symm⟩
    have hunits : 1 * 2 ^ (f.spare n + k) = 2 ^ k * (1 * 2 ^ f.spare n) := by
      rw [Nat.pow_add]
      ac_rfl
    rw [round, round, Nat.div_one, Nat.div_one, f.spare_mul_two_pow hlarge, hunits,
      Nat.mul_comm n, halfEven_mul_left _ _ _ (Nat.two_pow_pos k), Nat.pow_add, Nat.mul_assoc]

/-- Rounding at most doubles a number, because what it drops is no more than the number. -/
theorem round_le (f : Format) (n : Nat) : f.round n 1 ≤ 2 * n := by
  rw [round, Nat.div_one, Nat.one_mul]
  by_cases hzero : n = 0
  · subst hzero
    exact Nat.le_of_eq (by simp [halfEven])
  · have hdropped : 2 ^ f.spare n ≤ n := by
      refine (Nat.le_log2 hzero).mp ?_
      have := f.precision_pos
      unfold spare
      omega
    calc halfEven n (2 ^ f.spare n) * 2 ^ f.spare n
      _ ≤ (n / 2 ^ f.spare n + 1) * 2 ^ f.spare n :=
        Nat.mul_le_mul_right _ (halfEven_le_succ n (2 ^ f.spare n))
      _ = n / 2 ^ f.spare n * 2 ^ f.spare n + 2 ^ f.spare n := Nat.succ_mul _ _
      _ ≤ n + n := Nat.add_le_add (Nat.div_mul_le_self n _) hdropped
      _ = 2 * n := (Nat.two_mul n).symm

end Format

namespace Single

/-- The largest word. -/
def maxWord : Nat := 4294967295

/-- What a word comes back as from its digits. -/
def rereadWord (n : UInt32) : UInt32 := UInt32.ofNat (min (Format.single.round n.toNat 1) maxWord)

/-- The digits of a word are read as a finite number, which is cut to the word that comes back. -/
theorem toWord_ofDecimal_toNat (n : UInt32) :
    (ofDecimal ⟨n.toNat, 0⟩).isFinite = true ∧ (ofDecimal ⟨n.toNat, 0⟩).toWord = rereadWord n := by
  have hpos : 0 < unitsPerOne := Nat.two_pow_pos _
  have hround : Format.single.round (n.toNat * unitsPerOne) (10 ^ 0) =
      Format.single.round n.toNat 1 * unitsPerOne := Format.single.round_mul_two_pow n.toNat _
  have hfinite : Format.single.round n.toNat 1 * unitsPerOne < 2 ^ Format.single.ceiling := by
    have hle := Format.single.round_le n.toNat
    have hlt : n.toNat < 2 ^ 32 := n.toNat_lt
    calc Format.single.round n.toNat 1 * unitsPerOne
      _ < 2 ^ 33 * unitsPerOne := Nat.mul_lt_mul_of_pos_right (by omega) hpos
      _ = 2 ^ (33 + Format.single.scale) := (Nat.pow_add 2 33 _).symm
      _ < 2 ^ Format.single.ceiling := Nat.pow_lt_pow_right (by decide) (by decide)
  have hvalue : ∃ fits, ofDecimal ⟨n.toNat, 0⟩ =
      .finite false ⟨Format.single.round n.toNat 1 * unitsPerOne, fits⟩ := by
    have hfits : Format.single.Fits (Format.single.round n.toNat 1 * unitsPerOne) :=
      ⟨hfinite, hround ▸ Format.single.significant_round _ _⟩
    refine ⟨hfits, ?_⟩
    unfold ofDecimal ofRatio
    rw [dif_pos (by rw [hround]; exact hfinite)]
    simp only [hround]
  obtain ⟨fits, hvalue⟩ := hvalue
  rw [hvalue]
  simp [isFinite, toWord, rereadWord, maxWord, Nat.mul_div_cancel _ hpos]

/-- A word survives its digits exactly if it has few enough bits or is the largest word, which a
number too large for a word is clamped to. -/
theorem rereadWord_eq_self_iff (n : UInt32) :
    rereadWord n = n ↔ Format.single.Significant n.toNat ∨ n.toNat = maxWord := by
  have hlt : n.toNat < UInt32.size := n.toNat_lt
  have hword : (rereadWord n).toNat = min (Format.single.round n.toNat 1) maxWord := by
    have hmin : min (Format.single.round n.toNat 1) maxWord < UInt32.size :=
      Nat.lt_of_le_of_lt (Nat.min_le_right _ _) (by decide)
    rw [rereadWord, UInt32.toNat_ofNat', Nat.mod_eq_of_lt hmin]
  have hmax : n.toNat ≤ maxWord := Nat.le_of_lt_succ hlt
  rw [← UInt32.toNat_inj, hword, ← Format.single.round_eq_self_iff]
  constructor
  · intro h
    omega
  · rintro (h | h)
    · omega
    · -- The largest word is rounded up, past the words, and clamped to itself.
      have hlast : Format.single.round maxWord 1 = maxWord + 1 := by decide
      rw [h, hlast]
      omega

end Single

end SearchQuery.Number
