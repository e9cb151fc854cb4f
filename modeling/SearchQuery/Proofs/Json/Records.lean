import Mathlib.Data.List.Nodup
import SearchQuery.Json.Decode
import SearchQuery.Proofs.Json.Reading
import SearchQuery.Proofs.Number.Canonical

/-!
Typed values as JSON. Numbers are spelled as JSON asks, and strings, words, lists and the members of
a record are read from the value that they are written as.
-/

namespace SearchQuery.Json

attribute [local instance (high)] instPowNat

open Number (Single Format)
open Number.Decimal (all_isDigit_toDigits)

/-! ## Spelling numbers -/

/-- Only zero starts with the digit zero. -/
theorem eq_zero_of_head?_toDigits {n : Nat} (h : (Nat.toDigits 10 n).head? = some '0') : n = 0 := by
  induction n using Nat.strongRecOn with
  | ind n ih =>
    by_cases hn : n < 10
    · have hdigit : ∀ n < 10, n.digitChar = '0' → n = 0 := by decide
      rw [Nat.toDigits_of_lt_base hn] at h
      exact hdigit n hn (Option.some.inj h)
    · obtain ⟨c, cs, hcons⟩ : ∃ c cs, Nat.toDigits 10 (n / 10) = c :: cs :=
        List.exists_cons_of_ne_nil Nat.toDigits_ne_nil
      rw [Nat.toDigits_of_base_le (by decide) (by omega), hcons] at h
      have hzero := ih (n / 10) (by omega) (by rw [hcons]; exact h)
      omega

namespace Numeral

/-- Whole digits without zeros in front, then the digits of a fraction and of an exponent. -/
theorem wellFormed_of_toDigits {negative : Bool} {n : Nat} {fraction : List Char}
    (h : ∀ c ∈ fraction, c.isDigit = true) :
    WellFormed { negative, whole := Nat.toDigits 10 n, fraction } where
  whole := all_isDigit_toDigits n
  nonempty := Nat.toDigits_ne_nil
  unpadded hzero := by
    rw [eq_zero_of_head?_toDigits hzero]
    rfl
  fraction := h
  exponent := by simp

/-- A single is spelled as JSON asks, in either notation. -/
theorem wellFormed_ofUnits (negative : Bool) (units : Nat) :
    (ofUnits negative units).WellFormed := by
  unfold ofUnits
  dsimp only
  split
  · refine wellFormed_of_toDigits ?_
    split
    · simp
    · exact Number.all_isDigit_fraction _ _
  · have hdigits := all_isDigit_toDigits (Format.single.shortest .even units)
    obtain ⟨c, cs, hcons⟩ : ∃ c cs,
        Nat.toDigits 10 (Format.single.shortest .even units) = c :: cs :=
      List.exists_cons_of_ne_nil Nat.toDigits_ne_nil
    rw [hcons] at hdigits ⊢
    rw [List.forall_mem_cons] at hdigits
    constructor
    · simpa using hdigits.1
    · simp
    · simp
    · exact Number.all_isDigit_dropTrailingZeros hdigits.2
    · intro sign digits hexponent
      split at hexponent
      · cases hexponent
        exact ⟨Nat.toDigits_ne_nil, all_isDigit_toDigits _⟩
      · cases hexponent
        exact ⟨Nat.toDigits_ne_nil, all_isDigit_toDigits _⟩

end Numeral

theorem wellFormed_ofString (s : String) : (ofString s).WellFormed := .string _

theorem wellFormed_ofNat (n : Nat) : (ofNat n).WellFormed :=
  .number (Numeral.wellFormed_of_toDigits (by simp))

theorem wellFormed_ofSingle (x : Single) : (ofSingle x).WellFormed := by
  cases x with
  | nan => exact .null
  | infinite negative => exact .null
  | finite negative m => exact .number (Numeral.wellFormed_ofUnits negative m.units)

theorem wellFormed_record {members : List (String × Json)}
    (h : ∀ member ∈ members, member.2.WellFormed) : (record members).WellFormed := by
  refine .object ?_
  intro member hmember
  obtain ⟨m, hm, rfl⟩ := List.mem_map.mp hmember
  exact h m hm

/-! ## Reading typed values -/

/-- A natural number of a width is read from its digits. -/
theorem natBelow?_ofNat {bound n : Nat} (hbound : n < bound) (hword : n ≤ Numeral.maxWord) :
    (ofNat n).natBelow? bound = some n := by
  simp [ofNat, natBelow?, Numeral.natural?, Nat.ofDigitChars_ten_toDigits, hbound, hword]

@[simp] theorem text?_ofString (s : String) : (ofString s).text? = some s := rfl

@[simp] theorem choice?_ofString (depth : Nat) (s : String) :
    (ofString s).choice? depth = some s := rfl

@[simp] theorem bool?_bool (b : Bool) : (bool b).bool? = some b := rfl

@[simp] theorem word64?_ofNat (n : UInt64) : (ofNat n.toNat).word64? = some n := by
  have hlt : n.toNat < UInt64.size := n.toNat_lt
  rw [word64?, natBelow?_ofNat hlt (Nat.le_of_lt_succ hlt), Option.map_some, UInt64.ofNat_toNat]

@[simp] theorem word32?_ofNat (n : UInt32) : (ofNat n.toNat).word32? = some n := by
  have hlt : n.toNat < UInt32.size := n.toNat_lt
  have hword : n.toNat ≤ Numeral.maxWord := by
    have hsize : UInt32.size ≤ Numeral.maxWord := by decide
    omega
  rw [word32?, natBelow?_ofNat hlt hword, Option.map_some, UInt32.ofNat_toNat]

@[simp] theorem list?_text?_ofString (texts : List String) :
    (array (texts.map ofString)).list? text? = some texts := by
  rw [list?]
  induction texts with
  | nil => rfl
  | cons text texts ih =>
    rw [List.map_cons, List.mapM_cons, ih]
    rfl

@[simp] theorem optional?_text?_ofString (text : Option String) :
    optional? text? (some ((text.map ofString).getD null)) = some text := by
  cases text <;> rfl

/-- A member of a record is found under its name. -/
theorem lookup_record {members : List (String × Json)} (distinct : (members.map Prod.fst).Nodup)
    {member : String × Json} (h : member ∈ members) :
    (members.map fun (name, value) => (some name, value)).lookup (some member.1) =
      some member.2 := by
  induction members with
  | nil => cases h
  | cons first members ih =>
    rw [List.map_cons, List.nodup_cons] at distinct
    rw [List.map_cons, List.lookup_cons]
    rcases List.mem_cons.mp h with rfl | hmem
    · rw [beq_self_eq_true]
    · have hne : member.1 ≠ first.1 := by
        intro heq
        exact distinct.1 (heq ▸ List.mem_map_of_mem hmem)
      have hbeq : (some member.1 == some first.1) = false := by simpa using hne
      rw [hbeq]
      exact ih distinct.2 hmem

theorem length_filter_record {members : List (String × Json)}
    (distinct : (members.map Prod.fst).Nodup) (name : String) :
    ((members.map fun (name, value) => ((some name : Content), value)).filter
      (·.1 == some name)).length ≤ 1 := by
  have hcount : (members.map Prod.fst).count name ≤ 1 :=
    List.nodup_iff_count_le_one.mp distinct name
  rw [← List.countP_eq_length_filter, List.countP_map]
  rw [List.count, List.countP_map] at hcount
  exact hcount

/-- A record with distinct names is asked for members by any names, which it may lack. -/
theorem fields?_eq_lookup {members : List (String × Json)}
    (distinct : (members.map Prod.fst).Nodup) (names : List String) :
    (record members).fields? names = some (names.map fun name =>
      (members.map fun (name, value) => (some name, value)).lookup (some name)) := by
  have hnamed : (members.map fun (name, value) => ((some name : Content), value)).all
      (·.1.isSome) = true := by simp
  have hsingle : names.all (fun name =>
      ((members.map fun (name, value) => ((some name : Content), value)).filter
        (·.1 == some name)).length ≤ 1) = true := by
    rw [List.all_eq_true]
    intro name _
    exact decide_eq_true (length_filter_record distinct name)
  rw [record, fields?, if_pos ⟨hnamed, hsingle⟩]

/-- The members of a record with distinct names, in the order in which they are asked for. -/
theorem fields?_record {members : List (String × Json)}
    (distinct : (members.map Prod.fst).Nodup) :
    (record members).fields? (members.map Prod.fst) = some (members.map (some ·.2)) := by
  rw [fields?_eq_lookup distinct, List.map_map]
  refine congrArg some (List.map_congr_left ?_)
  intro member hmember
  exact lookup_record distinct hmember

theorem allFields?_record {members : List (String × Json)}
    (distinct : (members.map Prod.fst).Nodup) :
    (record members).allFields? (members.map Prod.fst) = some (members.map (some ·.2)) :=
  fields?_record distinct

end SearchQuery.Json
