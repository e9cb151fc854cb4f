import SearchQuery.Proofs.Lexer.Cases
import SearchQuery.Proofs.Lexer.Shift
import SearchQuery.Proofs.Lists

/-!
Texts put together. What follows a text leaves the tokens of that text as they are, as long as it
starts with a character that ends words and is no colon. Main statements: every reader leaves the
same length of text behind it and after it, and `tokens_append`.
-/

namespace SearchQuery.Lexer

open Number (Single Decimal)
open Text (isBlank isHexDigit hexValue scalar?)

/-- The number of characters of the whole text. -/
def Cursor.total (here : Cursor) : Nat := here.offset + here.rest.length

/-- The same place in a text with `tail` after it. -/
def Cursor.before (here : Cursor) (tail : List Char) : Cursor := ⟨here.offset, here.rest ++ tail⟩

/-- Whether a text may follow any other one without changing the tokens of that one. -/
def separates : List Char → Bool
  | [] => true
  | c :: _ => endsWord false c && c != ':'

/-- Whether no word goes on with a text. -/
def endsWordAt (inRange : Bool) : List Char → Bool
  | [] => true
  | c :: _ => endsWord inRange c

theorem endsWordAt_of_separates {tail : List Char} (h : separates tail = true) :
    endsWordAt false tail = true := by
  cases tail with
  | nil => rfl
  | cons c tail =>
    simp only [separates, Bool.and_eq_true] at h
    exact h.1

/-! ## Escapes -/

theorem le_length_of_hexDigits {cs : List Char}
    (h : ((cs.take 4).takeWhile isHexDigit).length = 4) : 4 ≤ cs.length := by
  have hle : ((cs.take 4).takeWhile isHexDigit).length ≤ (cs.take 4).length :=
    (List.takeWhile_sublist isHexDigit).length_le
  simp only [List.length_take] at hle
  omega

theorem escape_total {position : Nat} {cs : List Char} {e : Char} {next : Cursor}
    (h : escape position cs = .ok (e, next)) : next.total = position + 1 + cs.length := by
  unfold escape at h
  split at h
  · cases h
  · split at h
    · dsimp only at h
      split at h
      · rename_i hdigits
        have hlen := le_length_of_hexDigits hdigits
        split at h <;> cases h
        simp only [Cursor.total, List.length_drop, List.length_cons]
        omega
      · cases h
    · cases h
      simp only [Cursor.total, List.length_cons]
      omega

theorem escape_append {position : Nat} {cs : List Char} {e : Char} {next : Cursor}
    (h : escape position cs = .ok (e, next)) (tail : List Char) :
    escape position (cs ++ tail) = .ok (e, next.before tail) := by
  unfold escape at h
  split at h
  · cases h
  · rename_i c rest
    split at h
    · rename_i hc
      dsimp only at h
      split at h
      · rename_i hdigits
        have hlen := le_length_of_hexDigits hdigits
        have htake : (rest ++ tail).take 4 = rest.take 4 := List.take_append_of_le_length hlen
        have hdrop : (rest ++ tail).drop 4 = rest.drop 4 ++ tail :=
          List.drop_append_of_le_length hlen
        split at h <;> cases h
        rename_i hscalar
        simp [escape, hc, htake, hdrop, hdigits, hscalar, Cursor.before]
      · cases h
    · rename_i hc
      cases h
      simp [escape, hc, Cursor.before]

/-! ## Quoted texts and words -/

theorem quoted_total {start : Nat} {here : Cursor} {text : List Char} {next : Cursor}
    (h : quoted start here = .ok (text, next)) : next.total = here.total := by
  fun_induction quoted start here generalizing text next with
  | case1 => cases h
  | case2 offset rest =>
    cases h
    simp only [Cursor.total, List.length_cons]
    omega
  | case3 => cases h
  | case4 offset rest e mid hmid _ _ ih =>
    obtain ⟨⟨t, last⟩, hq, heq⟩ := Except.map_eq_ok_iff.mp h
    cases heq
    rw [ih hq, escape_total hmid]
    simp only [Cursor.total, List.length_cons]
    omega
  | case5 offset c rest _ _ ih =>
    obtain ⟨⟨t, last⟩, hq, heq⟩ := Except.map_eq_ok_iff.mp h
    cases heq
    rw [ih hq]
    simp only [Cursor.total, List.length_cons]
    omega

theorem quoted_append {start : Nat} {here : Cursor} {text : List Char} {next : Cursor}
    (h : quoted start here = .ok (text, next)) (tail : List Char) :
    quoted start (here.before tail) = .ok (text, next.before tail) := by
  fun_induction quoted start here generalizing text next with
  | case1 => cases h
  | case2 offset rest =>
    cases h
    simp only [Cursor.before, List.cons_append, quoted_cons, if_pos]
  | case3 => cases h
  | case4 offset rest e mid hmid _ hq ih =>
    obtain ⟨⟨t, last⟩, hquoted, heq⟩ := Except.map_eq_ok_iff.mp h
    cases heq
    simp only [Cursor.before, List.cons_append, quoted_cons, if_neg hq, if_pos,
      escape_append hmid tail]
    have := ih hquoted
    simp only [Cursor.before] at this
    rw [this]
    rfl
  | case5 offset c rest hq hb ih =>
    obtain ⟨⟨t, last⟩, hquoted, heq⟩ := Except.map_eq_ok_iff.mp h
    cases heq
    have := ih hquoted
    simp only [Cursor.before] at this
    simp only [Cursor.before, List.cons_append, quoted_cons, if_neg hq, if_neg hb, this]
    rfl

theorem word_total {inRange : Bool} {here : Cursor} {w : Word} {next : Cursor}
    (h : word inRange here = .ok (w, next)) : next.total = here.total := by
  fun_induction word inRange here generalizing w next with
  | case1 =>
    cases h
    rfl
  | case2 =>
    cases h
    rfl
  | case3 => cases h
  | case4 offset rest e mid hmid _ _ ih =>
    obtain ⟨⟨t, last⟩, hw, heq⟩ := Except.map_eq_ok_iff.mp h
    cases heq
    rw [ih hw, escape_total hmid]
    simp only [Cursor.total, List.length_cons]
    omega
  | case5 offset c rest _ _ ih =>
    obtain ⟨⟨t, last⟩, hw, heq⟩ := Except.map_eq_ok_iff.mp h
    cases heq
    rw [ih hw]
    simp only [Cursor.total, List.length_cons]
    omega

theorem word_append {inRange : Bool} {here : Cursor} {w : Word} {next : Cursor}
    (h : word inRange here = .ok (w, next)) {tail : List Char}
    (hend : next.rest ≠ [] ∨ endsWordAt inRange tail = true) :
    word inRange (here.before tail) = .ok (w, next.before tail) := by
  fun_induction word inRange here generalizing w next with
  | case1 offset =>
    cases h
    simp only [ne_eq, not_true_eq_false, false_or] at hend
    cases tail with
    | nil => exact word_nil inRange offset
    | cons c tail =>
      have hc : endsWord inRange c = true := hend
      simp only [Cursor.before, List.nil_append, word_cons, if_pos hc]
  | case2 offset c rest hc =>
    cases h
    simp only [Cursor.before, List.cons_append, word_cons, if_pos hc]
  | case3 => cases h
  | case4 offset rest e mid hmid _ hc ih =>
    obtain ⟨⟨t, last⟩, hw, heq⟩ := Except.map_eq_ok_iff.mp h
    cases heq
    have := ih hw hend
    simp only [Cursor.before] at this
    simp only [Cursor.before, List.cons_append, word_cons, if_neg hc, if_pos,
      escape_append hmid tail, this]
    rfl
  | case5 offset c rest hc hb ih =>
    obtain ⟨⟨t, last⟩, hw, heq⟩ := Except.map_eq_ok_iff.mp h
    cases heq
    have := ih hw hend
    simp only [Cursor.before] at this
    simp only [Cursor.before, List.cons_append, word_cons, if_neg hc, if_neg hb, this]
    rfl

/-! ## Numbers -/

/-- Whether a character is part of a numeral. -/
def isNumeral (c : Char) : Bool := c.isDigit || c == '.'

theorem exists_digitChar {c : Char} (h : c.isDigit = true) : ∃ n < 10, c = Nat.digitChar n := by
  obtain ⟨hlo, hhi⟩ := Char.isDigit_iff_toNat.mp h
  have hchar : ∀ n < 10, (Nat.digitChar n).toNat = '0'.toNat + n := by decide
  have hnine : '9'.toNat = '0'.toNat + 9 := rfl
  refine ⟨c.toNat - '0'.toNat, by omega, Char.toNat_inj.mp ?_⟩
  rw [hchar _ (by omega)]
  omega

theorem endsWord_of_isNumeral {c : Char} (h : isNumeral c = true) : endsWord false c = false := by
  simp only [isNumeral, Bool.or_eq_true, beq_iff_eq] at h
  rcases h with h | rfl
  · obtain ⟨n, hn, rfl⟩ := exists_digitChar h
    have : ∀ n < 10, endsWord false (Nat.digitChar n) = false := by decide
    exact this n hn
  · decide

theorem isNumeral_of_endsWord {c : Char} (h : endsWord false c = true) : isNumeral c = false := by
  cases hc : isNumeral c with
  | false => rfl
  | true =>
    rw [endsWord_of_isNumeral hc] at h
    cases h

theorem takeWhile_isNumeral_of_endsWordAt {tail : List Char} (h : endsWordAt false tail = true) :
    tail.takeWhile isNumeral = [] := by
  cases tail with
  | nil => rfl
  | cons c tail => simp [isNumeral_of_endsWord h]

theorem startsNumber_append {tail : List Char} (h : endsWordAt false tail = true)
    (cs : List Char) : startsNumber (cs ++ tail) = startsNumber cs := by
  have hhead (c : Char) (hc : tail.head? = some c) : c.isDigit = false ∧ (c == '.') = false := by
    cases tail with
    | nil => cases hc
    | cons d tail =>
      cases hc
      exact Bool.or_eq_false_iff.mp (isNumeral_of_endsWord h)
  cases cs with
  | nil =>
    cases tail with
    | nil => rfl
    | cons c tail =>
      obtain ⟨hdigit, hpoint⟩ := hhead c rfl
      simp only [List.nil_append, startsNumber, hdigit, hpoint, Bool.false_and, Bool.or_self]
  | cons c cs =>
    cases cs with
    | nil =>
      have hany : tail.head?.any Char.isDigit = false := by
        cases hc : tail.head? with
        | none => rfl
        | some d => exact (hhead d hc).1
      simp [startsNumber, hany]
    | cons d cs => rfl

theorem filter_head?_append {tail : List Char} (h : endsWordAt false tail = true)
    (cs : List Char) :
    (cs ++ tail).head?.filter (!endsWord false ·) = cs.head?.filter (!endsWord false ·) := by
  cases cs with
  | nil =>
    cases tail with
    | nil => rfl
    | cons c tail =>
      have hc : endsWord false c = true := h
      simp [hc]
  | cons c cs => rfl

theorem number_total {here : Cursor} {value : Option Single} {next : Cursor}
    (h : number here = .ok (value, next)) : next.total = here.total := by
  have hlen : (here.rest.takeWhile isNumeral).length ≤ here.rest.length :=
    (List.takeWhile_sublist isNumeral).length_le
  unfold number at h
  dsimp only at h
  split at h
  · split at h
    · cases h
    · cases h
    · split at h <;> cases h
      unfold isNumeral at hlen
      simp only [Cursor.total, List.length_drop]
      omega
  · cases h
    rfl

theorem number_append {here : Cursor} {value : Option Single} {next : Cursor}
    (h : number here = .ok (value, next)) {tail : List Char} (hend : endsWordAt false tail = true) :
    number (here.before tail) = .ok (value, next.before tail) := by
  have hlen : (here.rest.takeWhile isNumeral).length ≤ here.rest.length :=
    (List.takeWhile_sublist isNumeral).length_le
  have hdigits : (here.rest ++ tail).takeWhile isNumeral = here.rest.takeWhile isNumeral :=
    List.takeWhile_append_of_stop (takeWhile_isNumeral_of_endsWordAt hend)
  have hdrop : (here.rest ++ tail).drop (here.rest.takeWhile isNumeral).length =
      here.rest.drop (here.rest.takeWhile isNumeral).length ++ tail :=
    List.drop_append_of_le_length hlen
  unfold number at h ⊢
  unfold isNumeral at hdigits hdrop
  simp only [Cursor.before, startsNumber_append hend, hdigits, hdrop, filter_head?_append hend]
  dsimp only at h
  split at h
  · rw [if_pos ‹_›]
    split at h
    · cases h
    · cases h
    · split at h <;> cases h
      rw [if_pos ‹_›]
  · rw [if_neg ‹_›]
    cases h
    rfl

/-! ## Tokens -/

theorem head?_ne_of_separates {tail : List Char} (h : separates tail = true) {c : Char}
    (hc : separates [c] = false) : tail.head? ≠ some c := by
  cases tail with
  | nil => simp
  | cons d tail =>
    intro hd
    cases hd
    rw [show separates (c :: tail) = separates [c] from rfl, hc] at h
    cases h

theorem QueryStep.total {offset : Nat} {c : Char} {rest : List Char} {s : Step}
    (h : QueryStep offset c rest s) : s.next.total = offset + 1 + rest.length := by
  cases h with
  | sign => rfl
  | double _ twice =>
    obtain ⟨ds, rfl⟩ := List.head?_eq_some_iff.mp twice
    simp only [Cursor.total, List.tail_cons, List.length_cons]
    omega
  | phrase _ read => exact quoted_total read
  | number _ read => exact number_total read
  | field _ read colon =>
    obtain ⟨ds, hds⟩ := List.head?_eq_some_iff.mp colon
    have htotal := word_total read
    simp only [Cursor.total, hds, List.tail_cons, List.length_cons] at htotal ⊢
    omega
  | word _ read _ =>
    have htotal := word_total read
    simp only [Cursor.total, List.length_cons] at htotal ⊢
    omega

theorem RangeStep.total {start offset : Nat} {c : Char} {rest : List Char} {s : Step}
    (h : RangeStep start offset c rest s) : s.next.total = offset + 1 + rest.length := by
  cases h with
  | closing => rfl
  | phrase _ read => exact quoted_total read
  | word _ _ read =>
    have htotal := word_total read
    simp only [Cursor.total, List.length_cons] at htotal ⊢
    omega

theorem token_total {range : Option Nat} {offset : Nat} {c : Char} {rest : List Char} {s : Step}
    (h : token range offset c rest = .ok s) : s.next.total = offset + 1 + rest.length := by
  cases range with
  | none => exact (queryToken_eq_ok_iff.mp h).total
  | some start => exact (rangeToken_eq_ok_iff.mp h).total

theorem StartsWord.append {c : Char} {rest tail : List Char} (h : StartsWord c rest)
    (hsep : separates tail = true) : StartsWord c (rest ++ tail) := by
  refine ⟨h.unsigned, fun kind sign => ?_, h.unquoted, h.unnumbered, h.named⟩
  have hc : separates [c] = false := by cases sign <;> rfl
  rw [ne_eq, List.head?_append_ne (head?_ne_of_separates hsep hc)]
  exact h.single kind sign

/-- What follows a token outside of ranges does not change it. -/
theorem QueryStep.append {offset : Nat} {c : Char} {rest tail : List Char} {s : Step}
    (h : QueryStep offset c rest s) (hsep : separates tail = true) :
    QueryStep offset c (rest ++ tail) { s with next := s.next.before tail } := by
  have hend := endsWordAt_of_separates hsep
  cases h with
  | sign sign => exact .sign sign
  | double sign twice =>
    obtain ⟨ds, rfl⟩ := List.head?_eq_some_iff.mp twice
    exact .double sign rfl
  | phrase quote read => exact .phrase quote (quoted_append read tail)
  | number sign read => exact .number sign (number_append read hend)
  | @field w next starts read colon =>
    obtain ⟨ds, hds⟩ := List.head?_eq_some_iff.mp colon
    have hcolon : (next.before tail).rest.head? = some ':' := by simp [Cursor.before, hds]
    have hstep := QueryStep.field (starts.append hsep) (word_append read (.inr hend)) hcolon
    simpa [Cursor.before, hds] using hstep
  | @word w next starts read alone =>
    have halone : (next.before tail).rest.head? ≠ some ':' := by
      rwa [Cursor.before, ne_eq, List.head?_append_ne (head?_ne_of_separates hsep rfl)]
    exact .word (starts.append hsep) (word_append read (.inr hend)) halone

/-- Nor does what follows a token in a range, if the range goes on before it or ends there. -/
theorem RangeStep.append {start offset : Nat} {c : Char} {rest : List Char} {s : Step}
    (h : RangeStep start offset c rest s) (tail : List Char)
    (hin : s.range = none ∨ s.next.rest ≠ []) :
    RangeStep start offset c (rest ++ tail) { s with next := s.next.before tail } := by
  cases h with
  | closing sign => exact .closing sign
  | phrase quote read => exact .phrase quote (quoted_append read tail)
  | @word w next inside unquoted read =>
    have hrest : next.rest ≠ [] := hin.resolve_left (by simp)
    exact .word inside unquoted (word_append read (.inl hrest))

theorem skipBlanks_append {here : Cursor} {c : Char} {rest : List Char}
    (h : (skipBlanks here).rest = c :: rest) (tail : List Char) :
    skipBlanks (here.before tail) = (skipBlanks here).before tail := by
  have hdrop : here.rest.dropWhile isBlank = c :: rest := h
  have hlen : (here.rest.takeWhile isBlank).length ≠ here.rest.length := by
    intro hlen
    have htake : here.rest.takeWhile isBlank = here.rest :=
      (List.takeWhile_sublist isBlank).eq_of_length hlen
    have happend : here.rest.takeWhile isBlank ++ here.rest.dropWhile isBlank = here.rest :=
      List.takeWhile_append_dropWhile
    rw [hdrop] at happend
    have := congrArg List.length happend
    simp only [List.length_append, List.length_cons] at this
    omega
  simp only [skipBlanks, Cursor.before, List.takeWhile_append, List.dropWhile_append, if_neg hlen,
    hdrop, List.isEmpty_cons, Bool.false_eq_true, ↓reduceIte]

theorem skipBlanks_append_of_blank {here : Cursor} (h : (skipBlanks here).rest = [])
    (tail : List Char) : skipBlanks (here.before tail) = skipBlanks ⟨here.total, tail⟩ := by
  have hdrop : here.rest.dropWhile isBlank = [] := h
  have hall : ∀ c ∈ here.rest, isBlank c = true := List.dropWhile_eq_nil_iff.mp hdrop
  simp only [skipBlanks, Cursor.before, Cursor.total, List.takeWhile_append_of_pos hall,
    List.dropWhile_append_of_pos hall, List.length_append]
  congr 1
  omega

theorem skipBlanks_total (here : Cursor) : (skipBlanks here).total = here.total := by
  have happend : here.rest.takeWhile isBlank ++ here.rest.dropWhile isBlank = here.rest :=
    List.takeWhile_append_dropWhile
  have hlen := congrArg List.length happend
  rw [List.length_append] at hlen
  simp only [skipBlanks, Cursor.total]
  omega

theorem tokens_congr {range : Option Nat} {a b : Cursor} (h : skipBlanks a = skipBlanks b) :
    tokens range a = tokens range b := by
  cases hrest : (skipBlanks a).rest with
  | nil => rw [tokens_of_blank hrest, tokens_of_blank (h ▸ hrest)]
  | cons c rest => rw [tokens_of_cons hrest, tokens_of_cons (h ▸ hrest), h]

/-- A text and one that separates from it are cut apart between the two. -/
theorem tokens_append {range : Option Nat} {here : Cursor} {ts : List Token}
    (h : tokens range here = .ok ts) {tail : List Char} (hsep : separates tail = true) :
    tokens range (here.before tail) = (tokens none ⟨here.total, tail⟩).map (ts ++ ·) := by
  fun_induction tokens range here generalizing ts with
  | case1 => cases h
  | case2 here hrest =>
    cases h
    rw [tokens_congr (skipBlanks_append_of_blank hrest tail)]
    cases tokens none ⟨here.total, tail⟩ <;> rfl
  | case3 => cases h
  | case4 range here c rest hrest step hstep _ ih =>
    obtain ⟨ts', hts, rfl⟩ := Except.map_eq_ok_iff.mp h
    -- A range that is still open goes on before the tail, or the text alone would be refused.
    have hin : step.range = none ∨ step.next.rest ≠ [] := by
      cases hrange : step.range with
      | none => exact .inl rfl
      | some start =>
        refine .inr fun hnil => ?_
        have hblank : (skipBlanks step.next).rest = [] := by simp [skipBlanks, hnil]
        rw [hrange, tokens_of_blank hblank] at hts
        cases hts
    have hskip := skipBlanks_append hrest tail
    have hrest' : (skipBlanks (here.before tail)).rest = c :: (rest ++ tail) := by
      rw [hskip, Cursor.before, hrest, List.cons_append]
    have htoken : token range (skipBlanks (here.before tail)).offset c (rest ++ tail) =
        .ok { step with next := step.next.before tail } := by
      rw [hskip]
      cases range with
      | none => exact queryToken_eq_ok_iff.mpr ((queryToken_eq_ok_iff.mp hstep).append hsep)
      | some start =>
        exact rangeToken_eq_ok_iff.mpr ((rangeToken_eq_ok_iff.mp hstep).append tail hin)
    have htotal : step.next.total = here.total := by
      rw [token_total hstep, ← skipBlanks_total here, Cursor.total, hrest, List.length_cons]
      omega
    have hoffset : (skipBlanks (here.before tail)).offset = (skipBlanks here).offset := by
      rw [hskip]
      rfl
    rw [tokens_of_cons hrest', htoken]
    simp only [ih hts, htotal, hoffset]
    cases tokens none ⟨here.total, tail⟩ <;> rfl

end SearchQuery.Lexer
