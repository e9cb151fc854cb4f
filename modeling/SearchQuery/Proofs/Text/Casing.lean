import SearchQuery.Text.Casing
import SearchQuery.Text.Letter

/-!
Lower case stays lower case. The table of cases is checked once: each of its runs ends in letters,
and no run takes up what another one gives. Main statements: a character of a lowered text is its own
lower case, and the lower case of letters is letters, but for the dot that `İ` leaves behind.
-/

namespace SearchQuery.Text

/-! ## Ranges -/

/-- Whether one of the ranges holds all of a stretch of code points. -/
def Ranges.covers : Ranges → Nat → Nat → Bool
  | [], _, _ => false
  | r :: rest, low, high => r.1.ble low && (high.ble r.2 || Ranges.covers rest low high)

theorem Ranges.has_of_covers {rs : Ranges} {low high n : Nat} (h : rs.covers low high = true)
    (hlow : low ≤ n) (hhigh : n ≤ high) : rs.has n = true := by
  induction rs with
  | nil => cases h
  | cons r rs ih =>
    simp only [covers, Bool.and_eq_true, Bool.or_eq_true, Nat.ble_eq] at h
    simp only [has, Bool.and_eq_true, Bool.or_eq_true, decide_eq_true_eq]
    refine ⟨by omega, ?_⟩
    rcases h.2 with hlast | hrest
    · exact .inl (by omega)
    · exact .inr (ih hrest)

/-! ## The table -/

namespace CaseRun

/-- The greatest lower case of a run. -/
def top (run : CaseRun) : Nat := run.lower + (run.last - run.first)

/-- The lower cases of a run. -/
def images (run : CaseRun) : List Nat :=
  (List.range ((run.last - run.first) / run.step + 1)).map (run.lower + run.step * ·)

/-- Whether the lower cases of a run are characters. -/
def isScalar (run : CaseRun) : Bool :=
  run.top < 0xD800 || (0xDFFF < run.lower && run.top < 0x110000)

/-- Whether the lower cases of a run are in a set, all in one of its ranges or one by one. -/
def staysIn (rs : Ranges) (run : CaseRun) : Bool :=
  rs.covers run.lower run.top || run.images.all rs.has

/-- Whether no lower case of a run is held by another run. -/
def avoids (run other : CaseRun) : Bool :=
  run.top.blt other.first || other.last.blt run.lower || run.images.all (!other.holds ·)

/-- The capital that is lowered to two characters, as a run of its own. -/
def dotted : CaseRun := ⟨0x0130, 0x0130, 1, 0x0069⟩

theorem mem_images {run : CaseRun} {n : Nat} (h : run.holds n = true) :
    run.lower + (n - run.first) ∈ run.images := by
  simp only [holds, Bool.and_eq_true, decide_eq_true_eq, beq_iff_eq] at h
  obtain ⟨⟨hfirst, hlast⟩, hstep⟩ := h
  refine List.mem_map.mpr ⟨(n - run.first) / run.step, ?_, ?_⟩
  · have hle : (n - run.first) / run.step ≤ (run.last - run.first) / run.step :=
      Nat.div_le_div_right (by omega)
    exact List.mem_range.mpr (by omega)
  · rw [Nat.mul_div_cancel' (Nat.dvd_of_mod_eq_zero hstep)]

theorem bounds_of_mem_images {run : CaseRun} {n : Nat} (h : n ∈ run.images) :
    run.lower ≤ n ∧ n ≤ run.top := by
  obtain ⟨k, hk, rfl⟩ := List.mem_map.mp h
  have hk : k ≤ (run.last - run.first) / run.step := by
    have := List.mem_range.mp hk
    omega
  have hmul : run.step * k ≤ run.last - run.first :=
    calc run.step * k
      _ ≤ run.step * ((run.last - run.first) / run.step) := Nat.mul_le_mul_left _ hk
      _ ≤ run.last - run.first := Nat.mul_div_le _ _
  simp only [top]
  omega

theorem holds_of_avoids {run other : CaseRun} (h : run.avoids other = true) {n : Nat}
    (hn : n ∈ run.images) : other.holds n = false := by
  have hbounds := bounds_of_mem_images hn
  simp only [avoids, Bool.or_eq_true, Nat.blt_eq] at h
  rcases h with (habove | hbelow) | hapart
  · have hfirst : ¬ other.first ≤ n := by omega
    simp [holds, hfirst]
  · have hlast : ¬ n ≤ other.last := by omega
    simp [holds, hlast]
  · simpa using List.all_eq_true.mp hapart n hn

end CaseRun

/-- The table leads to letters that it does not lead on from. -/
theorem settled_of_mem_caseRuns {run : CaseRun} (h : run ∈ caseRuns) :
    run.isScalar = true ∧ run.staysIn letters = true ∧
      ∀ other ∈ CaseRun.dotted :: caseRuns, run.avoids other = true := by
  have hscalar : caseRuns.all CaseRun.isScalar = true := by decide +kernel
  have hletters : caseRuns.all (CaseRun.staysIn letters) = true := by decide +kernel
  have hapart : (caseRuns.all fun run => (CaseRun.dotted :: caseRuns).all run.avoids) = true := by
    decide +kernel
  rw [List.all_eq_true] at hscalar hletters hapart
  exact ⟨hscalar run h, hletters run h, List.all_eq_true.mp (hapart run h)⟩

theorem CaseRun.toNat_ofNat {run : CaseRun} (hrun : run.isScalar = true) {n : Nat}
    (hn : n ∈ run.images) : (Char.ofNat n).toNat = n := by
  have hbounds := bounds_of_mem_images hn
  simp only [isScalar, Bool.or_eq_true, Bool.and_eq_true, decide_eq_true_eq] at hrun
  have hvalid : n.isValidChar := by
    unfold Nat.isValidChar
    omega
  rw [Char.ofNat, dif_pos hvalid]
  rfl

/-- What the table leads to is a letter and its own lower case. -/
theorem settled_of_mem_images {run : CaseRun} (hrun : run ∈ caseRuns) {n : Nat}
    (hn : n ∈ run.images) :
    isLetter (Char.ofNat n) = true ∧ lowerChar (Char.ofNat n) = [Char.ofNat n] := by
  obtain ⟨hscalar, hletters, hapart⟩ := settled_of_mem_caseRuns hrun
  have hcode := CaseRun.toNat_ofNat hscalar hn
  constructor
  · rw [isLetter, hcode]
    simp only [CaseRun.staysIn, Bool.or_eq_true, List.all_eq_true] at hletters
    rcases hletters with hcovers | hall
    · obtain ⟨hlow, hhigh⟩ := CaseRun.bounds_of_mem_images hn
      exact Ranges.has_of_covers hcovers hlow hhigh
    · exact hall n hn
  · have hne : Char.ofNat n ≠ 'İ' := by
      intro hsame
      have hn130 : n = 0x0130 := hcode.symm.trans (congrArg Char.toNat hsame)
      have hfree := CaseRun.holds_of_avoids (hapart _ List.mem_cons_self) hn
      rw [hn130] at hfree
      exact absurd hfree (by decide)
    have hnone : caseRuns.find? (·.holds (Char.ofNat n).toNat) = none := by
      rw [hcode, List.find?_eq_none]
      intro other hother
      rw [CaseRun.holds_of_avoids (hapart other (List.mem_cons_of_mem _ hother)) hn]
      simp
    rw [lowerChar, if_neg hne, hnone]

/-! ## Characters -/

/-- The dot above, which `İ` leaves behind its lower case and which is no letter. -/
def dotAbove : Char := '\u0307'

theorem isLetter_dotAbove : isLetter dotAbove = false := by decide +kernel

/-- The lower case of a character: two characters of `İ`, what the table gives, or the same. -/
theorem lowerChar_cases (c : Char) :
    c = 'İ' ∧ lowerChar c = ['i', dotAbove] ∨
      (∃ run ∈ caseRuns, ∃ n ∈ run.images, lowerChar c = [Char.ofNat n]) ∨ lowerChar c = [c] := by
  by_cases hdotted : c = 'İ'
  · exact .inl ⟨hdotted, by rw [lowerChar, if_pos hdotted]; rfl⟩
  · rw [lowerChar, if_neg hdotted]
    cases hfind : caseRuns.find? (·.holds c.toNat) with
    | none => exact .inr (.inr rfl)
    | some run =>
      have hholds := List.find?_some hfind
      exact .inr (.inl ⟨run, List.mem_of_find?_eq_some hfind, _, CaseRun.mem_images hholds, rfl⟩)

/-- Lower case has no other lower case. -/
theorem lowerChar_of_mem {c d : Char} (h : d ∈ lowerChar c) : lowerChar d = [d] := by
  rcases lowerChar_cases c with ⟨-, heq⟩ | ⟨run, hrun, n, hn, heq⟩ | heq
  · rw [heq] at h
    have hpair : d = 'i' ∨ d = dotAbove := by simpa using h
    rcases hpair with rfl | rfl <;> decide +kernel
  · rw [heq, List.mem_singleton] at h
    rw [h]
    exact (settled_of_mem_images hrun hn).2
  · rw [heq, List.mem_singleton] at h
    rw [h, heq]

/-- The lower case of a letter is letters, and a dot if the letter is `İ`. -/
theorem isLetter_of_mem_lowerChar {c d : Char} (hc : isLetter c = true) (h : d ∈ lowerChar c) :
    isLetter d = true ∨ c = 'İ' ∧ d = dotAbove := by
  rcases lowerChar_cases c with ⟨hdotted, heq⟩ | ⟨run, hrun, n, hn, heq⟩ | heq
  · rw [heq] at h
    have hpair : d = 'i' ∨ d = dotAbove := by simpa using h
    rcases hpair with rfl | rfl
    · exact .inl (by decide +kernel)
    · exact .inr ⟨hdotted, rfl⟩
  · rw [heq, List.mem_singleton] at h
    rw [h]
    exact .inl (settled_of_mem_images hrun hn).1
  · rw [heq, List.mem_singleton] at h
    rw [h]
    exact .inl hc

/-! ## Texts -/

/-- A character of a lowered text comes from one of the text, by itself unless it is the sigma at the
end of a word. -/
theorem exists_of_mem_lowerAfter {before cs : List Char} {d : Char}
    (h : d ∈ lowerAfter before cs) : ∃ c ∈ cs, d ∈ lowerChar c ∨ c = 'Σ' ∧ d = 'ς' := by
  induction cs generalizing before with
  | nil => cases h
  | cons c cs ih =>
    rw [lowerAfter, List.mem_append] at h
    rcases h with hhere | hthere
    · refine ⟨c, List.mem_cons_self, ?_⟩
      split at hhere
      · rename_i hsigma
        rw [List.mem_singleton] at hhere
        split at hhere
        · exact .inr ⟨hsigma, hhere⟩
        · subst hsigma hhere
          exact .inl (by decide +kernel)
      · exact .inl hhere
    · obtain ⟨e, he, hd⟩ := ih hthere
      exact ⟨e, List.mem_cons_of_mem c he, hd⟩

/-- Each character of a lowered text is its own lower case. -/
theorem lowerChar_of_mem_lowerAfter {before cs : List Char} {d : Char}
    (h : d ∈ lowerAfter before cs) : lowerChar d = [d] := by
  obtain ⟨c, -, hmem | ⟨-, rfl⟩⟩ := exists_of_mem_lowerAfter h
  · exact lowerChar_of_mem hmem
  · decide +kernel

/-- A text whose characters are their own lower case is lowered to itself. -/
theorem lowerAfter_eq_self {before cs : List Char} (h : ∀ c ∈ cs, lowerChar c = [c]) :
    lowerAfter before cs = cs := by
  induction cs generalizing before with
  | nil => rfl
  | cons c cs ih =>
    have hc := h c List.mem_cons_self
    have hsigma : c ≠ 'Σ' := by
      rintro rfl
      exact absurd hc (by decide +kernel)
    rw [lowerAfter, if_neg hsigma, hc, ih fun d hd => h d (List.mem_cons_of_mem c hd)]
    rfl

/-- The lower case of letters is letters and dots. -/
theorem isLetter_of_mem_lowerAfter {before cs : List Char} (hall : ∀ c ∈ cs, isLetter c = true)
    {d : Char} (h : d ∈ lowerAfter before cs) : isLetter d = true ∨ d = dotAbove := by
  obtain ⟨c, hc, hmem | ⟨-, rfl⟩⟩ := exists_of_mem_lowerAfter h
  · rcases isLetter_of_mem_lowerChar (hall c hc) hmem with hletter | ⟨-, hdot⟩
    · exact .inl hletter
    · exact .inr hdot
  · exact .inl (by decide +kernel)

/-- Letters leave a dot behind exactly if `İ` is among them. -/
theorem dotAbove_mem_lowerAfter {before cs : List Char} (hall : ∀ c ∈ cs, isLetter c = true) :
    dotAbove ∈ lowerAfter before cs ↔ 'İ' ∈ cs := by
  constructor
  · intro h
    obtain ⟨c, hc, hmem | ⟨-, hfinal⟩⟩ := exists_of_mem_lowerAfter h
    · rcases isLetter_of_mem_lowerChar (hall c hc) hmem with hletter | ⟨hdotted, -⟩
      · rw [isLetter_dotAbove] at hletter
        cases hletter
      · exact hdotted ▸ hc
    · exact absurd hfinal (by decide)
  · intro h
    clear hall
    induction cs generalizing before with
    | nil => cases h
    | cons c cs ih =>
      rw [lowerAfter, List.mem_append]
      rcases List.mem_cons.mp h with rfl | h
      · left
        rw [if_neg (by decide)]
        decide +kernel
      · exact .inr (ih h)

theorem lower_ne_empty {s : String} (h : s ≠ "") : lower s ≠ "" := by
  obtain ⟨c, cs, hcs⟩ := List.exists_cons_of_ne_nil (by simpa using h : s.toList ≠ [])
  have hchar : lowerChar c ≠ [] := by
    rcases lowerChar_cases c with ⟨-, heq⟩ | ⟨run, hrun, n, hn, heq⟩ | heq <;> simp [heq]
  have hlower : lowerAfter [] (c :: cs) ≠ [] := by
    rw [lowerAfter]
    split
    · simp
    · simp [hchar]
  simpa [lower, hcs] using hlower

end SearchQuery.Text
