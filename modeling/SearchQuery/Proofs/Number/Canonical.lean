import Mathlib.Data.List.TakeWhile
import SearchQuery.Number.Spelling

/-!
The canonical text of a number reads back as that number. Both forms, the whole numbers with one
decimal and the shortest decimals, are numerals of a ratio that rounds to the number; what differs
from the ratio of its shortest decimal is a power of ten in both parts, and rounding depends on the
ratio alone.
-/

namespace SearchQuery.Number

attribute [local instance (high)] instPowNat

namespace Decimal

theorem all_isDigit_toDigits (n : Nat) : ∀ c ∈ Nat.toDigits 10 n, c.isDigit = true :=
  fun _ h => Nat.isDigit_of_mem_toDigits (by decide) (by decide) h

/-- A numeral without a point. -/
theorem read?_of_digits {whole : List Char} (digits : ∀ c ∈ whole, c.isDigit = true)
    (nonempty : whole ≠ []) : read? whole = some ⟨Nat.ofDigitChars 10 whole 0, 0⟩ := by
  have hdrop : whole.dropWhile Char.isDigit = [] := List.dropWhile_eq_nil_iff.mpr digits
  have htake : whole.takeWhile Char.isDigit = whole := List.takeWhile_eq_self_iff.mpr digits
  simp [read?, hdrop, htake, nonempty]

/-- A numeral with a point after its first digits. -/
theorem read?_of_point {whole fraction : List Char} (digits : ∀ c ∈ whole, c.isDigit = true)
    (nonempty : whole ≠ []) (decimals : ∀ c ∈ fraction, c.isDigit = true) :
    read? (whole ++ '.' :: fraction) =
      some ⟨Nat.ofDigitChars 10 (whole ++ fraction) 0, fraction.length⟩ := by
  have hpoint : '.'.isDigit = false := by decide
  have hdrop : (whole ++ '.' :: fraction).dropWhile Char.isDigit = '.' :: fraction := by
    rw [List.dropWhile_append_of_pos digits, List.dropWhile_cons, hpoint]
    rfl
  have htake : (whole ++ '.' :: fraction).takeWhile Char.isDigit = whole := by
    rw [List.takeWhile_append_of_pos digits, List.takeWhile_cons, hpoint]
    exact List.append_nil whole
  have hall : fraction.all Char.isDigit = true := List.all_eq_true.mpr decimals
  simp only [read?, hdrop, htake, hall]
  simp [nonempty]

end Decimal

/-! ## Positional notation -/

/-- The zeros that are dropped from a list of digits can be put back. -/
theorem dropTrailingZeros_append (cs : List Char) :
    ∃ n, dropTrailingZeros cs ++ List.replicate n '0' = cs := by
  refine ⟨(cs.reverse.takeWhile (· == '0')).length, ?_⟩
  have hzeros : ∀ c ∈ cs.reverse.takeWhile (· == '0'), c = '0' := by
    intro c hc
    simpa using List.mem_takeWhile_imp hc
  have hreplicate := List.eq_replicate_of_mem hzeros
  have hsplit : cs.reverse.takeWhile (· == '0') ++ cs.reverse.dropWhile (· == '0') = cs.reverse :=
    List.takeWhile_append_dropWhile
  have hreverse := congrArg List.reverse hsplit
  rw [List.reverse_append, List.reverse_reverse, hreplicate, List.reverse_replicate] at hreverse
  exact hreverse

theorem all_isDigit_dropTrailingZeros {cs : List Char} (h : ∀ c ∈ cs, c.isDigit = true) :
    ∀ c ∈ dropTrailingZeros cs, c.isDigit = true := by
  intro c hc
  obtain ⟨n, hn⟩ := dropTrailingZeros_append cs
  exact h c (hn ▸ List.mem_append_left _ hc)

/-- The digits of a number below `10 ^ places`, with zeros in front. -/
def decimals (places n : Nat) : List Char := (Nat.toDigits 10 n).leftpad places '0'

theorem all_isDigit_decimals (places n : Nat) : ∀ c ∈ decimals places n, c.isDigit = true := by
  intro c hc
  simp only [decimals, List.leftpad, List.mem_append, List.mem_replicate] at hc
  rcases hc with ⟨-, rfl⟩ | hc
  · decide
  · exact Decimal.all_isDigit_toDigits n c hc

theorem ofDigitChars_decimals (places n : Nat) (start : Nat) (h : n < 10 ^ places)
    (hp : 0 < places) :
    Nat.ofDigitChars 10 (decimals places n) start = start * 10 ^ places + n := by
  have hlen : (Nat.toDigits 10 n).length ≤ places :=
    (Nat.length_toDigits_le_iff (by decide) hp).mpr h
  rw [decimals, List.leftpad, Nat.ofDigitChars_append, Nat.ofDigitChars_replicate_zero,
    Nat.ofDigitChars_eq_ofDigitChars_zero, Nat.ofDigitChars_ten_toDigits, ← Nat.mul_assoc,
    ← Nat.pow_add, Nat.add_sub_cancel' hlen, Nat.mul_comm]

theorem length_decimals (places n : Nat) (h : n < 10 ^ places) (hp : 0 < places) :
    (decimals places n).length = places := by
  have hlen : (Nat.toDigits 10 n).length ≤ places :=
    (Nat.length_toDigits_le_iff (by decide) hp).mpr h
  simp only [decimals, List.leftpad, List.length_append, List.length_replicate]
  omega

/-- Digits, and then digits and points. -/
def IsNumeral (cs : List Char) : Prop :=
  ∃ c rest, cs = c :: rest ∧ c.isDigit = true ∧ ∀ d ∈ rest, (d.isDigit || d == '.') = true

theorem isNumeral_append {whole rest : List Char} (digits : ∀ c ∈ whole, c.isDigit = true)
    (nonempty : whole ≠ []) (hrest : ∀ d ∈ rest, (d.isDigit || d == '.') = true) :
    IsNumeral (whole ++ rest) := by
  obtain ⟨c, cs, rfl⟩ := List.exists_cons_of_ne_nil nonempty
  refine ⟨c, cs ++ rest, rfl, digits c (by simp), fun d hd => ?_⟩
  rcases List.mem_append.mp hd with hd | hd
  · simp [digits d (List.mem_cons_of_mem c hd)]
  · exact hrest d hd

theorem isNumeral_toDigits (n : Nat) : IsNumeral (Nat.toDigits 10 n) := by
  have h : IsNumeral (Nat.toDigits 10 n ++ []) :=
    isNumeral_append (Decimal.all_isDigit_toDigits n) Nat.toDigits_ne_nil (by simp)
  rwa [List.append_nil] at h

/-- The fraction that positional notation writes. -/
def fraction (places w : Nat) : List Char :=
  dropTrailingZeros (decimals places (w % 10 ^ places))

theorem positional_eq (places w : Nat) :
    positional places w =
      if (fraction places w).isEmpty then Nat.toDigits 10 (w / 10 ^ places)
      else Nat.toDigits 10 (w / 10 ^ places) ++ '.' :: fraction places w :=
  rfl

theorem all_isDigit_fraction (places w : Nat) : ∀ c ∈ fraction places w, c.isDigit = true :=
  all_isDigit_dropTrailingZeros (all_isDigit_decimals places (w % 10 ^ places))

/-- The zeros after a fraction are what it lacks to all its places. -/
theorem ofDigitChars_fraction {places : Nat} (w : Nat) (hp : 0 < places) :
    ∃ n, (fraction places w).length + n = places ∧
      Nat.ofDigitChars 10 (Nat.toDigits 10 (w / 10 ^ places) ++ fraction places w) 0 * 10 ^ n =
        w := by
  have hlt : w % 10 ^ places < 10 ^ places := Nat.mod_lt w (Nat.pow_pos (by decide))
  obtain ⟨n, hn⟩ := dropTrailingZeros_append (decimals places (w % 10 ^ places))
  refine ⟨n, ?_, ?_⟩
  · have hlen := congrArg List.length hn
    rwa [List.length_append, List.length_replicate, length_decimals _ _ hlt hp] at hlen
  · have hvalue := ofDigitChars_decimals places (w % 10 ^ places) (w / 10 ^ places) hlt hp
    rw [← hn, Nat.ofDigitChars_append, Nat.ofDigitChars_replicate_zero] at hvalue
    rw [Nat.ofDigitChars_append, Nat.ofDigitChars_ten_toDigits, Nat.mul_comm, fraction, hvalue,
      Nat.mul_comm, Nat.div_add_mod]

/-- Positional notation is read as a numeral of the same number. -/
theorem read?_positional {places : Nat} (w : Nat) (hp : 0 < places) :
    ∃ d n, Decimal.read? (positional places w) = some d ∧ d.places + n = places ∧
      d.digits * 10 ^ n = w := by
  obtain ⟨n, hlen, hvalue⟩ := ofDigitChars_fraction w hp
  rw [positional_eq]
  cases hf : fraction places w with
  | nil =>
    rw [hf, List.append_nil] at hvalue
    rw [hf, List.length_nil, Nat.zero_add] at hlen
    exact ⟨_, n, Decimal.read?_of_digits (Decimal.all_isDigit_toDigits _) Nat.toDigits_ne_nil,
      (Nat.zero_add n).trans hlen, hvalue⟩
  | cons c cs =>
    have hdigits := all_isDigit_fraction places w
    rw [hf] at hlen hvalue hdigits
    exact ⟨_, n, Decimal.read?_of_point (Decimal.all_isDigit_toDigits _) Nat.toDigits_ne_nil hdigits,
      hlen, hvalue⟩

theorem isNumeral_positional (places w : Nat) : IsNumeral (positional places w) := by
  rw [positional_eq]
  split
  · exact isNumeral_toDigits _
  · refine isNumeral_append (Decimal.all_isDigit_toDigits _) Nat.toDigits_ne_nil fun d hd => ?_
    rcases List.mem_cons.mp hd with rfl | hd
    · decide
    · simp [all_isDigit_fraction places w d hd]

/-! ## Canonical texts -/

namespace Single

/-- Only the ratio of a numeral counts. -/
theorem ofDecimal_eq {d : Decimal} {places n w : Nat} (hplaces : d.places + n = places)
    (hdigits : d.digits * 10 ^ n = w) :
    ofDecimal d = ofRatio false (w * unitsPerOne) (10 ^ places) := by
  have hround : Format.single.round (w * unitsPerOne) (10 ^ places) =
      Format.single.round (d.digits * unitsPerOne) (10 ^ d.places) := by
    rw [← Format.single.round_mul_left (10 ^ n) (d.digits * unitsPerOne) (10 ^ d.places)
      (Nat.pow_pos (by decide)), ← hdigits, ← hplaces, Nat.pow_add]
    congr 1 <;> ac_rfl
  simp only [ofDecimal, ofRatio, hround]

/-- A whole number written with one decimal. -/
theorem ofDecimal_whole {m : Magnitude} {n places : Nat} (h : m.units = n * unitsPerOne) :
    ofDecimal ⟨n * 10 ^ places, places⟩ = .finite false m := by
  have hnum : n * 10 ^ places * unitsPerOne = m.units * 10 ^ places := by
    rw [h]
    ac_rfl
  rw [ofDecimal, hnum, ofRatio_units false m.fits (Nat.pow_pos (by decide))]

/-- The shortest decimal of a magnitude. -/
theorem ofDecimal_shortest {m : Magnitude} {d : Decimal} {n : Nat}
    (hplaces : d.places + n = Format.single.scale)
    (hdigits : d.digits * 10 ^ n = Format.single.shortest .up m.units) :
    ofDecimal d = .finite false m := by
  have hround : Format.single.round (Format.single.shortest .up m.units * unitsPerOne)
      (10 ^ Format.single.scale) = m.units := by
    have h := Format.single.readsBack_shortest .up m.fits.2
    simpa [Format.readsBack, unitsPerOne] using h
  rw [ofDecimal_eq hplaces hdigits, ofRatio, dif_pos (by rw [hround]; exact m.fits.1)]
  simp [hround]

theorem canonical_of_whole {m : Magnitude} {n : Nat} (h : m.units = n * unitsPerOne) :
    canonical (.finite false m) = Nat.toDigits 10 n ++ ".0".toList := by
  have hpos : 0 < unitsPerOne := Nat.two_pow_pos _
  have hmod : m.units % unitsPerOne = 0 := by rw [h, Nat.mul_mod_left]
  have hdiv : m.units / unitsPerOne = n := by rw [h, Nat.mul_div_cancel _ hpos]
  simp [canonical, isWhole, hmod, hdiv, signed]

theorem canonical_of_not_whole {m : Magnitude} (h : m.units % unitsPerOne ≠ 0) :
    canonical (.finite false m) =
      positional Format.single.scale (Format.single.shortest .up m.units) := by
  simp [canonical, isWhole, h, plain, signed]

/-- The canonical text of a number without a sign reads back. -/
theorem read?_canonical (m : Magnitude) :
    ∃ d, Decimal.read? (canonical (.finite false m)) = some d ∧ ofDecimal d = .finite false m := by
  by_cases hwhole : m.units % unitsPerOne = 0
  · have hunits : m.units = m.units / unitsPerOne * unitsPerOne :=
      (Nat.div_mul_cancel (Nat.dvd_of_mod_eq_zero hwhole)).symm
    refine ⟨⟨m.units / unitsPerOne * 10 ^ 1, 1⟩, ?_, ofDecimal_whole hunits⟩
    rw [canonical_of_whole hunits,
      show ".0".toList = '.' :: ['0'] from rfl,
      Decimal.read?_of_point (Decimal.all_isDigit_toDigits _) Nat.toDigits_ne_nil (by simp),
      Nat.ofDigitChars_append, Nat.ofDigitChars_ten_toDigits]
    simp [Nat.ofDigitChars_cons, Nat.mul_comm]
  · obtain ⟨d, n, hread, hplaces, hdigits⟩ :=
      read?_positional (Format.single.shortest .up m.units) (by decide : 0 < Format.single.scale)
    exact ⟨d, by rw [canonical_of_not_whole hwhole, hread], ofDecimal_shortest hplaces hdigits⟩

theorem isNumeral_canonical (m : Magnitude) : IsNumeral (canonical (.finite false m)) := by
  by_cases hwhole : m.units % unitsPerOne = 0
  · rw [canonical_of_whole (Nat.div_mul_cancel (Nat.dvd_of_mod_eq_zero hwhole)).symm]
    exact isNumeral_append (Decimal.all_isDigit_toDigits _) Nat.toDigits_ne_nil (by simp)
  · rw [canonical_of_not_whole hwhole]
    exact isNumeral_positional _ _

/-- The sign of a number stands before its text. -/
theorem canonical_signed (negative : Bool) (m : Magnitude) :
    canonical (.finite negative m) = signed negative (canonical (.finite false m)) := by
  by_cases hwhole : m.units % unitsPerOne = 0
  · simp [canonical, isWhole, hwhole, signed]
  · simp [canonical, isWhole, hwhole, plain, signed]

/-- A numeral starts with a digit, so that the sign before it shows. -/
theorem signed_inj {s t : Bool} {cs ds : List Char} (hcs : IsNumeral cs) (hds : IsNumeral ds)
    (h : signed s cs = signed t ds) : s = t ∧ cs = ds := by
  have hminus : '-'.isDigit = false := by decide
  obtain ⟨c, cs, rfl, hc, -⟩ := hcs
  obtain ⟨d, ds, rfl, hd, -⟩ := hds
  cases s with
  | false =>
    cases t with
    | false => exact ⟨rfl, h⟩
    | true =>
      obtain ⟨rfl, -⟩ := List.cons.inj h
      rw [hminus] at hc
      cases hc
  | true =>
    cases t with
    | false =>
      obtain ⟨rfl, -⟩ := List.cons.inj h
      rw [hminus] at hd
      cases hd
    | true => exact ⟨rfl, List.tail_eq_of_cons_eq h⟩

/-- No two finite numbers have the same text: it shows the sign, and what is left reads back. -/
theorem canonical_injective {x y : Single} (hx : x.isFinite = true) (hy : y.isFinite = true)
    (h : x.canonical = y.canonical) : x = y := by
  cases x with
  | nan => cases hx
  | infinite s => cases hx
  | finite s m =>
    cases y with
    | nan => cases hy
    | infinite t => cases hy
    | finite t n =>
      rw [canonical_signed s, canonical_signed t] at h
      obtain ⟨rfl, htext⟩ := signed_inj (isNumeral_canonical m) (isNumeral_canonical n) h
      obtain ⟨d, hd, hm⟩ := read?_canonical m
      obtain ⟨e, he, hn⟩ := read?_canonical n
      rw [htext, he] at hd
      cases hd
      rw [hm] at hn
      cases hn
      rfl

end Single

end SearchQuery.Number
