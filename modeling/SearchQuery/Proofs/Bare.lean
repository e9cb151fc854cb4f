import SearchQuery.Proofs.Grammar.Induction
import SearchQuery.Proofs.Lexer.Escaping
import SearchQuery.Proofs.Parsing
import SearchQuery.Text.Runs

/-!
Bare texts: words of small letters, white space, parentheses, the operators between operands and the
signs before them. Main statement: the tree of a bare text is made of words, groups and signs.
-/

namespace SearchQuery

open Lexer (Spells endsWord isWild separates)
open Text (isBlank runs)

/-- A word of small letters. -/
def isSmallWord (cs : List Char) : Bool := !cs.isEmpty && cs.all Char.isLower

/-- The signs before operands. -/
def isSignChar (c : Char) : Bool := c == '+' || c == '-'

/-- Signs, and then a word of small letters, an operator or nothing. -/
def isBareRun (run : List Char) : Bool :=
  let core := run.dropWhile isSignChar
  core.isEmpty || isSmallWord core || isKeyword (String.ofList core)

/-- The characters that are neither white space nor parentheses. -/
def isInner (c : Char) : Bool := !isBlank c && c != '(' && c != ')'

/-- Whether a text has nothing but words of small letters, white space, parentheses, operators and
signs. -/
def isBare (text : String) : Bool := (runs isInner text.toList).all isBareRun

/-- The tokens of bare texts. -/
def Token.Kind.Bare : Token.Kind → Prop
  | .term text => isSmallWord text.toList = true
  | .and | .or | .not | .plus | .minus | .leftParen | .rightParen => True
  | _ => False

/-! ## Tokens -/

theorem exists_smallLetter {c : Char} (h : c.isLower = true) :
    ∃ n < 26, c = Char.ofNat ('a'.toNat + n) := by
  obtain ⟨hlo, hhi⟩ : 'a'.toNat ≤ c.toNat ∧ c.toNat ≤ 'z'.toNat := by
    have hbounds : (c.val ≥ 'a'.val && c.val ≤ 'z'.val) = true := h
    rwa [Bool.and_eq_true, decide_eq_true_eq, decide_eq_true_eq] at hbounds
  have hz : 'z'.toNat = 'a'.toNat + 25 := rfl
  refine ⟨c.toNat - 'a'.toNat, by omega, ?_⟩
  rw [Nat.add_sub_cancel' hlo, Char.ofNat_toNat]

/-- Small letters have no meaning of their own. -/
theorem plain_of_isLower {c : Char} (h : c.isLower = true) :
    isBlank c = false ∧ isWild c = false ∧ ∀ first, isReserved false first c = false := by
  obtain ⟨n, hn, rfl⟩ := exists_smallLetter h
  have hall : ∀ n < 26, isBlank (Char.ofNat ('a'.toNat + n)) = false ∧
      isWild (Char.ofNat ('a'.toNat + n)) = false ∧
      ∀ first, isReserved false first (Char.ofNat ('a'.toNat + n)) = false := by decide
  exact hall n hn

theorem isSmallWord_iff {cs : List Char} :
    isSmallWord cs = true ↔ cs ≠ [] ∧ ∀ c ∈ cs, c.isLower = true := by
  simp [isSmallWord]

theorem plain_of_isSmallWord {text : String} (h : isSmallWord text.toList = true) :
    text ≠ "" ∧ ∀ c ∈ text.toList, isBlank c = false ∧ isWild c = false := by
  obtain ⟨hne, hlower⟩ := isSmallWord_iff.mp h
  refine ⟨by simpa using hne, fun c hc => ?_⟩
  have hplain := plain_of_isLower (hlower c hc)
  exact ⟨hplain.1, hplain.2.1⟩

theorem escapeTerm_of_isSmallWord {text : String} (h : isSmallWord text.toList = true) :
    escapeTerm false text = text.toList := by
  have hkeyword : ¬ isKeyword text = true := by
    simp only [isKeyword, Bool.or_eq_true, beq_iff_eq]
    rintro ((rfl | rfl) | rfl) <;> exact absurd h (by decide)
  obtain ⟨hne, hlower⟩ := isSmallWord_iff.mp h
  have hchar : ∀ first, ∀ c ∈ text.toList, escapeChar false first c = [c] := by
    intro first c hc
    rw [escapeChar, (plain_of_isLower (hlower c hc)).2.2 first]
    rfl
  rw [escapeTerm, if_neg hkeyword]
  generalize text.toList = cs at hne hchar
  obtain ⟨c, rest, rfl⟩ := List.exists_cons_of_ne_nil hne
  have hrest : rest.flatMap (escapeChar false false) = rest.flatMap fun d => [d] :=
    List.flatMap_congr fun d hd => hchar false d (List.mem_cons_of_mem c hd)
  rw [escapeChars, hchar true c List.mem_cons_self, hrest]
  simp

theorem spells_of_isSmallWord {text : String} (h : isSmallWord text.toList = true) :
    Spells false text.toList [.term text] := by
  obtain ⟨hne, hplain⟩ := plain_of_isSmallWord h
  have hwild : text.toList.any isWild = false := by
    rw [List.any_eq_false]
    intro c hc
    simp [(hplain c hc).2]
  have hterm := Spells.term hne hwild
  rwa [escapeTerm_of_isSmallWord h] at hterm

theorem exists_spells_of_isKeyword {text : String} (h : isKeyword text = true) :
    ∃ k : Token.Kind, Spells false text.toList [k] ∧ k.Bare := by
  simp only [isKeyword, Bool.or_eq_true, beq_iff_eq] at h
  rcases h with (rfl | rfl) | rfl
  · refine ⟨.and, ?_, trivial⟩
    exact .word (.plain (by decide) (by decide) (.plain (by decide) (by decide)
      (.plain (by decide) (by decide) .nil))) (by decide)
  · refine ⟨.or, ?_, trivial⟩
    exact .word (.plain (by decide) (by decide) (.plain (by decide) (by decide) .nil)) (by decide)
  · refine ⟨.not, ?_, trivial⟩
    exact .word (.plain (by decide) (by decide) (.plain (by decide) (by decide)
      (.plain (by decide) (by decide) .nil))) (by decide)

theorem Lexer.Spells.unique {cs : List Char} {ks ks' : List Token.Kind} (h : Spells false cs ks)
    (h' : Spells false cs ks') : ks = ks' := by
  obtain ⟨ts, hts, rfl⟩ := h 0 0
  obtain ⟨ts', hts', rfl⟩ := h' 0 0
  rw [hts] at hts'
  cases hts'
  rfl

/-- A text is cut into the tokens of bare texts. -/
def SpellsBare (cs : List Char) : Prop := ∃ ks, Spells false cs ks ∧ ∀ k ∈ ks, k.Bare

namespace SpellsBare

theorem nil : SpellsBare [] := ⟨[], .nil, by simp⟩

theorem sign {c : Char} {cs : List Char} {k : Token.Kind} (hsign : Lexer.sign? c = some k)
    (hk : k.Bare) (h : SpellsBare cs) : SpellsBare (c :: cs) := by
  obtain ⟨ks, hspells, hks⟩ := h
  have hclosed : k.opensRange = false := by
    cases k <;> first | rfl | cases hk
  exact ⟨k :: ks, .sign hsign (by rwa [hclosed]), List.forall_mem_cons.mpr ⟨hk, hks⟩⟩

theorem append {cs tail : List Char} (h : SpellsBare cs) (hsep : separates tail = true)
    (htail : SpellsBare tail) : SpellsBare (cs ++ tail) := by
  obtain ⟨ks, hspells, hks⟩ := h
  obtain ⟨ks', hspells', hks'⟩ := htail
  exact ⟨ks ++ ks', hspells.append hsep hspells', List.forall_mem_append.mpr ⟨hks, hks'⟩⟩

theorem run {run : List Char} (h : isBareRun run = true) : SpellsBare run := by
  induction run with
  | nil => exact nil
  | cons c run ih =>
    by_cases hc : isSignChar c = true
    · have hrest : isBareRun run = true := by
        rwa [isBareRun, List.dropWhile_cons_of_pos hc] at h
      simp only [isSignChar, Bool.or_eq_true, beq_iff_eq] at hc
      rcases hc with rfl | rfl
      · exact sign rfl trivial (ih hrest)
      · exact sign rfl trivial (ih hrest)
    · obtain ⟨text, htext⟩ : ∃ text : String, c :: run = text.toList :=
        ⟨String.ofList (c :: run), by simp⟩
      rw [isBareRun, List.dropWhile_cons_of_neg hc, List.isEmpty_cons, Bool.false_or, htext,
        String.ofList_toList, Bool.or_eq_true] at h
      rw [htext]
      rcases h with hsmall | hkeyword
      · exact ⟨_, spells_of_isSmallWord hsmall, by simpa [Token.Kind.Bare] using hsmall⟩
      · obtain ⟨k, hspells, hk⟩ := exists_spells_of_isKeyword hkeyword
        exact ⟨[k], hspells, by simpa using hk⟩

/-- The runs of a text are cut apart by what stands between them. -/
theorem ofRuns {cs : List Char} (h : (runs isInner cs).all isBareRun = true) : SpellsBare cs := by
  fun_induction runs isInner cs with
  | case1 => exact nil
  | case2 c rest hc ih =>
    rw [List.all_cons, Bool.and_eq_true] at h
    have hsep : separates (rest.dropWhile isInner) = true := by
      cases hdrop : rest.dropWhile isInner with
      | nil => rfl
      | cons d tail =>
        have hd : isInner d = false := by
          have := List.head?_dropWhile_not isInner rest
          simpa [hdrop] using this
        simp only [isInner, Bool.and_eq_false_iff, Bool.not_eq_false', bne_eq_false_iff_eq] at hd
        rcases hd with (hblank | rfl) | rfl
        · have hcolon : d ≠ ':' := by
            rintro rfl
            exact absurd hblank (by decide)
          simp [separates, endsWord, hblank, hcolon]
        · rfl
        · rfl
    have happend := (run h.1).append hsep (ih h.2)
    rwa [List.cons_append, List.takeWhile_append_dropWhile] at happend
  | case3 c rest hc ih =>
    have hc' : isInner c = false := by simpa using hc
    simp only [isInner, Bool.and_eq_false_iff, Bool.not_eq_false', bne_eq_false_iff_eq] at hc'
    rcases hc' with (hblank | rfl) | rfl
    · obtain ⟨ks, hspells, hks⟩ := ih h
      exact ⟨ks, hspells.blank hblank, hks⟩
    · exact sign rfl trivial (ih h)
    · exact sign rfl trivial (ih h)

end SpellsBare

/-! ## Trees -/

/-- The trees of words of small letters, groups and signs. -/
inductive Tree.Bare : Tree → Prop
  | word {text : String} (small : isSmallWord text.toList = true) : Bare (.atom none (.term text))
  | group {junction : Junction} {ts : List Tree} (several : 2 ≤ ts.length)
      (all : ∀ t ∈ ts, Bare t) : Bare (.group junction ts)
  | prohibited {t : Tree} (child : Bare t) : Bare (.prohibited t)
  | required {t : Tree} (child : Bare t) : Bare (.required t)

/-- The tokens of bare texts spell bare trees only: no token of theirs names a field, opens a range
or stands after an operand. -/
theorem Grammar.inherited_bare : Inherited Token.Kind.Bare (fun _ => False) Tree.Bare where
  group several all := .group several all
  all h := absurd h (by simp [Token.Kind.Bare]; decide)
  term small := .word small
  wildcard h := h.elim
  phrase h := h.elim
  range h := h.elim
  under h _ := h.elim
  tilde h _ _ := h.elim
  caret _ h _ := h.elim
  boost h _ := h.elim
  required h := .required h
  prohibited h := .prohibited h

/-- The tree of a bare text is bare. -/
theorem Parser.Reads.bare {p : Parser} {text : String} {t : Tree} (h : p.Reads text t)
    (bare : isBare text = true) : t.Bare := by
  obtain ⟨ks, hspells, hread⟩ := h
  obtain ⟨ks', hspells', hks⟩ := SpellsBare.ofRuns bare
  rw [hspells'.unique hspells] at hks
  exact Grammar.inherited_bare.spelled hread hks

end SearchQuery
