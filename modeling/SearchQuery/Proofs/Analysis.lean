import SearchQuery.Analysis
import SearchQuery.Proofs.Lexer.Escaping
import SearchQuery.Proofs.Lists
import SearchQuery.Proofs.Text.Casing

/-!
Terms that are analyzed again. A term of an analyzer should be its own analysis, alone or with blanks
between the terms, so that a rendered term or phrase is read back. Main statement: this holds of the
analyzers that keep characters as they are, and of the one that keeps letters in lower case unless
the text has an `İ`, whose dot is no letter and cuts the term.
-/

namespace SearchQuery

open Lexer (phraseText)
open Text (isBlank isLetter lowerChar lowerAfter runs dotAbove)

namespace Text

/-! ## Runs -/

theorem runs_nil (test : Char → Bool) : runs test [] = [] := by
  rw [runs]

/-- A text of characters that pass is one run. -/
theorem runs_of_all {test : Char → Bool} {cs : List Char} (hall : ∀ c ∈ cs, test c = true)
    (nonempty : cs ≠ []) : runs test cs = [cs] := by
  obtain ⟨c, cs, rfl⟩ := List.exists_cons_of_ne_nil nonempty
  rw [List.forall_mem_cons] at hall
  rw [runs, if_pos hall.1, List.takeWhile_eq_self_iff.mpr hall.2,
    List.dropWhile_eq_nil_iff.mpr hall.2, runs_nil]

/-- The runs of a text on both sides of a character that does not pass. -/
theorem runs_append_cons {test : Char → Bool} {c : Char} (hc : test c = false) (a b : List Char) :
    runs test (a ++ c :: b) = runs test a ++ runs test b := by
  have hstop : (c :: b).takeWhile test = [] := by simp [hc]
  have hrest : (c :: b).dropWhile test = c :: b := by simp [hc]
  fun_induction runs test a with
  | case1 => rw [List.nil_append, runs, if_neg (by simp [hc]), List.nil_append]
  | case2 d rest hd ih =>
    have hdrop : (rest ++ c :: b).dropWhile test = rest.dropWhile test ++ c :: b := by
      rw [List.dropWhile_append, hrest]
      split
      · rename_i hempty
        rw [List.isEmpty_iff.mp hempty, List.nil_append]
      · rfl
    rw [List.cons_append, runs, if_pos hd, List.takeWhile_append_of_stop hstop, hdrop, ih]
    rfl
  | case3 d rest hd ih => rw [List.cons_append, runs, if_neg hd, ih]

/-- Words with a blank between them have the runs of each of them. -/
theorem runs_intercalate {test : Char → Bool} (hblank : test ' ' = false)
    (words : List (List Char)) :
    runs test ([' '].intercalate words) = words.flatMap (runs test) := by
  induction words with
  | nil => exact runs_nil test
  | cons w words ih =>
    cases words with
    | nil => simp
    | cons w' words =>
      rw [List.intercalate_cons_cons, List.append_assoc, List.singleton_append,
        runs_append_cons hblank, ih]
      rfl

theorem of_mem_runs {test : Char → Bool} {cs run : List Char} (h : run ∈ runs test cs) :
    run ≠ [] ∧ ∀ c ∈ run, test c = true := by
  fun_induction runs test cs with
  | case1 => cases h
  | case2 c rest hc ih =>
    rcases List.mem_cons.mp h with rfl | h
    · refine ⟨by simp, List.forall_mem_cons.mpr ⟨hc, ?_⟩⟩
      exact fun d hd => List.mem_takeWhile_imp hd
    · exact ih h
  | case3 c rest hc ih => exact ih h

/-- The runs of a text hold the characters that pass. -/
theorem flatten_runs (test : Char → Bool) (cs : List Char) :
    (runs test cs).flatten = cs.filter test := by
  fun_induction runs test cs with
  | case1 => rfl
  | case2 c rest hc ih =>
    have htake : (rest.takeWhile test).filter test = rest.takeWhile test :=
      List.filter_eq_self.mpr fun d hd => List.mem_takeWhile_imp hd
    have hsplit : rest.filter test = rest.takeWhile test ++ (rest.dropWhile test).filter test := by
      rw [← htake, ← List.filter_append, List.takeWhile_append_dropWhile]
    rw [List.flatten_cons, ih, List.filter_cons_of_pos hc, hsplit]
    rfl
  | case3 c rest hc ih => rw [ih, List.filter_cons_of_neg hc]

theorem exists_mem_runs_iff {test : Char → Bool} {cs : List Char} {c : Char} :
    (∃ run ∈ runs test cs, c ∈ run) ↔ c ∈ cs ∧ test c = true := by
  rw [← List.mem_flatten, flatten_runs, List.mem_filter]

/-- Runs depend on how the test judges the characters of the text only. -/
theorem runs_congr {test test' : Char → Bool} {cs : List Char}
    (h : ∀ c ∈ cs, test c = test' c) : runs test cs = runs test' cs := by
  fun_induction runs test cs with
  | case1 => exact (runs_nil test').symm
  | case2 c rest hc ih =>
    rw [List.forall_mem_cons] at h
    obtain ⟨htake, hdrop⟩ := List.takeWhile_dropWhile_congr h.2
    have hrest := ih fun d hd => h.2 d ((List.dropWhile_sublist test).mem hd)
    rw [hrest, htake, hdrop, runs, if_pos (h.1 ▸ hc)]
  | case3 c rest hc ih =>
    rw [List.forall_mem_cons] at h
    rw [ih h.2, runs, if_neg (h.1 ▸ hc)]

end Text

/-! ## Analysis at white space -/

theorem analyze_phraseText {terms : List String} (field : String)
    (h : ∀ text ∈ terms, text ≠ "" ∧ ∀ c ∈ text.toList, isBlank c = false) :
    Analyzer.whitespace.analyze field (phraseText terms) = .ok terms := by
  have hword : ∀ text ∈ terms, runs (!isBlank ·) text.toList = [text.toList] := by
    intro text htext
    obtain ⟨nonempty, hchars⟩ := h text htext
    exact Text.runs_of_all (fun c hc => by rw [hchars c hc]; rfl) (by simpa using nonempty)
  have hruns : runs (!isBlank ·) ([' '].intercalate (terms.map String.toList)) =
      terms.map String.toList := by
    rw [Text.runs_intercalate (by decide), List.flatMap_map, List.flatMap_congr hword,
      ← List.map_eq_flatMap]
  simp only [Analyzer.whitespace, phraseText, String.toList_ofList, hruns, List.map_map,
    Function.comp_def, String.ofList_toList, List.map_id']

theorem analyze_word {text : String} (field : String) (text_ne : text ≠ "")
    (h : ∀ c ∈ text.toList, isBlank c = false) :
    Analyzer.whitespace.analyze field text = .ok [text] := by
  have hphrase : Analyzer.whitespace.analyze field (phraseText [text]) = .ok [text] :=
    analyze_phraseText field (by simpa using ⟨text_ne, h⟩)
  simpa [phraseText] using hphrase

namespace Analyzer

/-- The terms of a text are their own terms: each of them alone, and all of them with blanks between
them. -/
structure Stable (analyzer : Analyzer) (field text : String) (terms : List String) : Prop where
  analyzed : analyzer.analyze field text = .ok terms
  alone : ∀ term ∈ terms, term ≠ "" ∧ analyzer.analyze field term = .ok [term]
  joined : analyzer.analyze field (phraseText terms) = .ok terms

/-- The words of a text are stable, and they hold all that is not blank. -/
theorem exists_stable_whitespace (field text : String) :
    ∃ words, whitespace.Stable field text words ∧
      words.flatMap String.toList = text.toList.filter (!isBlank ·) := by
  have hwords : ∀ word ∈ (runs (!isBlank ·) text.toList).map String.ofList,
      word ≠ "" ∧ ∀ c ∈ word.toList, isBlank c = false := by
    intro word hword
    obtain ⟨run, hrun, rfl⟩ := List.mem_map.mp hword
    obtain ⟨nonempty, hall⟩ := Text.of_mem_runs hrun
    refine ⟨by simpa using nonempty, ?_⟩
    intro c hc
    simpa using hall c (by simpa using hc)
  refine ⟨_, ⟨rfl, ?_, analyze_phraseText field hwords⟩, ?_⟩
  · intro word hword
    obtain ⟨nonempty, hchars⟩ := hwords word hword
    exact ⟨nonempty, analyze_word field nonempty hchars⟩
  · rw [← Text.flatten_runs, List.flatMap_map]
    simp [List.flatMap_id']

theorem stable_keyword (field text : String) :
    keyword.Stable field text (if text = "" then [] else [text]) := by
  by_cases hempty : text = ""
  · subst hempty
    exact ⟨rfl, by simp, rfl⟩
  · have hkeep : keyword.analyze field text = .ok [text] := by
      simp [keyword, hempty]
    rw [if_neg hempty]
    refine ⟨hkeep, by simpa using ⟨hempty, hkeep⟩, ?_⟩
    simpa [phraseText] using hkeep

/-! ## Analysis into letters -/

/-- The runs of letters of a text in lower case. -/
def letterTerms (text : String) : List String :=
  (runs isLetter text.toList).map fun run => Text.lower (String.ofList run)

theorem analyze_simple (field text : String) :
    simple.analyze field text = .ok (letterTerms text) := rfl

/-- A text cut at the dots above that `İ` leaves behind. -/
def undotted (text : String) : List String :=
  (runs (· != dotAbove) text.toList).map String.ofList

/-- What is known of a term of letters: it has characters, they are their own lower case, and they
are letters and dots. -/
structure Lowered (term : String) : Prop where
  nonempty : term ≠ ""
  settled : ∀ c ∈ term.toList, lowerChar c = [c]
  lettered : ∀ c ∈ term.toList, isLetter c = true ∨ c = dotAbove

theorem lowered_of_mem_letterTerms {text term : String} (h : term ∈ letterTerms text) :
    Lowered term := by
  obtain ⟨run, hrun, rfl⟩ := List.mem_map.mp h
  obtain ⟨nonempty, hall⟩ := Text.of_mem_runs hrun
  refine ⟨Text.lower_ne_empty (by simpa using nonempty), ?_, ?_⟩
  · intro c hc
    simp only [Text.lower, String.toList_ofList] at hc
    exact Text.lowerChar_of_mem_lowerAfter hc
  · intro c hc
    simp only [Text.lower, String.toList_ofList] at hc
    exact Text.isLetter_of_mem_lowerAfter hall hc

/-- Analyzed again, a term is only cut at its dots. -/
theorem letterTerms_of_lowered {term : String} (h : Lowered term) :
    letterTerms term = undotted term := by
  have hruns : runs isLetter term.toList = runs (· != dotAbove) term.toList := by
    apply Text.runs_congr
    intro c hc
    rcases h.lettered c hc with hletter | rfl
    · have hne : c ≠ dotAbove := by
        rintro rfl
        rw [Text.isLetter_dotAbove] at hletter
        cases hletter
      simp [hletter, hne]
    · simp [Text.isLetter_dotAbove]
  rw [letterTerms, undotted, hruns]
  apply List.map_congr_left
  intro run hrun
  have hsettled : ∀ c ∈ run, lowerChar c = [c] := by
    intro c hc
    exact h.settled c (Text.exists_mem_runs_iff.mp ⟨run, hrun, hc⟩).1
  rw [Text.lower, String.toList_ofList, Text.lowerAfter_eq_self hsettled]

theorem undotted_eq_singleton_iff {term : String} (h : Lowered term) :
    undotted term = [term] ↔ dotAbove ∉ term.toList := by
  constructor
  · intro hwhole hdot
    have hmem : term ∈ undotted term := by simp [hwhole]
    obtain ⟨run, hrun, hterm⟩ := List.mem_map.mp hmem
    have hpass := (Text.of_mem_runs hrun).2 dotAbove (by simpa [← hterm] using hdot)
    simp at hpass
  · intro hdot
    have hall : ∀ c ∈ term.toList, (c != dotAbove) = true := by
      intro c hc
      simpa using ne_of_mem_of_not_mem hc hdot
    rw [undotted, Text.runs_of_all hall (by simpa using h.nonempty)]
    simp

/-- The terms of a text have a dot exactly if the text has an `İ`. -/
theorem exists_dotAbove_mem_iff {text : String} :
    (∃ term ∈ letterTerms text, dotAbove ∈ term.toList) ↔ 'İ' ∈ text.toList := by
  have hletter : isLetter 'İ' = true := by decide +kernel
  rw [← and_iff_left (a := 'İ' ∈ text.toList) hletter, ← Text.exists_mem_runs_iff]
  constructor
  · rintro ⟨term, hterm, hdot⟩
    obtain ⟨run, hrun, rfl⟩ := List.mem_map.mp hterm
    simp only [Text.lower, String.toList_ofList] at hdot
    exact ⟨run, hrun, (Text.dotAbove_mem_lowerAfter (Text.of_mem_runs hrun).2).mp hdot⟩
  · rintro ⟨run, hrun, hdotted⟩
    refine ⟨_, List.mem_map_of_mem hrun, ?_⟩
    simp only [Text.lower, String.toList_ofList]
    exact (Text.dotAbove_mem_lowerAfter (Text.of_mem_runs hrun).2).mpr hdotted

/-- Analyzed again, terms with blanks between them are each cut at its dots. -/
theorem letterTerms_phraseText {terms : List String} (h : ∀ term ∈ terms, Lowered term) :
    letterTerms (phraseText terms) = terms.flatMap undotted := by
  have hterm : ∀ term ∈ terms, letterTerms term = undotted term :=
    fun term hterm => letterTerms_of_lowered (h term hterm)
  rw [← List.flatMap_congr hterm]
  unfold letterTerms
  rw [phraseText, String.toList_ofList, Text.runs_intercalate (by decide +kernel), List.flatMap_map,
    List.map_flatMap]

theorem stable_simple_iff {field text : String} :
    simple.Stable field text (letterTerms text) ↔ 'İ' ∉ text.toList := by
  have hlowered : ∀ term ∈ letterTerms text, Lowered term :=
    fun term hterm => lowered_of_mem_letterTerms hterm
  rw [← exists_dotAbove_mem_iff]
  constructor
  · rintro hstable ⟨term, hterm, hdot⟩
    have hwhole := (hstable.alone term hterm).2
    rw [analyze_simple, letterTerms_of_lowered (hlowered term hterm), Except.ok.injEq] at hwhole
    exact (undotted_eq_singleton_iff (hlowered term hterm)).mp hwhole hdot
  · intro hplain
    have hwhole : ∀ term ∈ letterTerms text, undotted term = [term] := by
      intro term hterm
      exact (undotted_eq_singleton_iff (hlowered term hterm)).mpr fun hdot =>
        hplain ⟨term, hterm, hdot⟩
    refine ⟨rfl, ?_, ?_⟩
    · intro term hterm
      refine ⟨(hlowered term hterm).nonempty, ?_⟩
      rw [analyze_simple, letterTerms_of_lowered (hlowered term hterm), hwhole term hterm]
    · rw [analyze_simple, letterTerms_phraseText hlowered, List.flatMap_congr hwhole,
        List.flatMap_singleton']

/-- Words and whole texts are analyzed again to themselves. Terms of letters are cut at their dots,
so they are analyzed to themselves exactly if the text has no `İ`. -/
theorem stable_unless_dotted (field text : String) :
    (∃ words, whitespace.Stable field text words ∧
      words.flatMap String.toList = text.toList.filter (!isBlank ·)) ∧
    keyword.Stable field text (if text = "" then [] else [text]) ∧
    ∃ terms, simple.analyze field text = .ok terms ∧
      (∀ term ∈ terms, term ≠ "" ∧ simple.analyze field term = .ok (undotted term)) ∧
      simple.analyze field (phraseText terms) = .ok (terms.flatMap undotted) ∧
      (simple.Stable field text terms ↔ 'İ' ∉ text.toList) := by
  have hlowered : ∀ term ∈ letterTerms text, Lowered term :=
    fun term hterm => lowered_of_mem_letterTerms hterm
  refine ⟨exists_stable_whitespace field text, stable_keyword field text, letterTerms text, rfl,
    ?_, ?_, stable_simple_iff⟩
  · intro term hterm
    refine ⟨(hlowered term hterm).nonempty, ?_⟩
    rw [analyze_simple, letterTerms_of_lowered (hlowered term hterm)]
  · rw [analyze_simple, letterTerms_phraseText hlowered]

example : Analyzer.simple.analyze "f" "İs" = .ok ["i\u0307s"] ∧
    Analyzer.simple.analyze "f" "i\u0307s" = .ok ["i", "s"] := by
  decide +kernel

end Analyzer

end SearchQuery
