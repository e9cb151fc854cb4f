import Mathlib.Tactic.Common
import SearchQuery.Token.Lexer

/-!
The lexer does not depend on where in a text it starts: with `k` more characters before it, it
reads the same tokens and makes the same errors, `k` characters further on.
-/

namespace SearchQuery

/-- An error `k` characters further on. -/
def LexError.shift (k : Nat) : LexError → LexError
  | unterminatedRange start => unterminatedRange (start + k)
  | bareColon position => bareColon (position + k)
  | trailingBackslash position => trailingBackslash (position + k)
  | shortUnicodeEscape position => shortUnicodeEscape (position + k)
  | unicodeEscape digits position => unicodeEscape digits (position + k)
  | unterminatedQuote start => unterminatedQuote (start + k)
  | afterNumber found number position => afterNumber found number (position + k)
  | numberOutOfRange number position => numberOutOfRange number (position + k)
  | invalidNumber number position => invalidNumber number (position + k)

/-- A token `k` characters further on. -/
def Token.shift (k : Nat) (t : Token) : Token := { t with offset := t.offset + k }

namespace Lexer

open Number (Single Decimal)
open Text (isBlank isHexDigit hexValue scalar?)

def Cursor.shift (k : Nat) (here : Cursor) : Cursor := { here with offset := here.offset + k }

def Step.shift (k : Nat) (s : Step) : Step :=
  { s with range := s.range.map (· + k), next := s.next.shift k }

/-- An outcome `k` characters further on, where `move` shifts what was read. -/
def shifted {α : Type} (k : Nat) (move : α → α) : Except LexError α → Except LexError α
  | .ok a => .ok (move a)
  | .error e => .error (e.shift k)

theorem quoted_cons (start offset : Nat) (c : Char) (rest : List Char) :
    quoted start ⟨offset, c :: rest⟩ =
      if c = '"' then .ok ([], ⟨offset + 1, rest⟩)
      else if c = '\\' then
        match escape offset rest with
        | .error e => .error e
        | .ok (e, next) => (quoted start next).map fun (text, last) => (e :: text, last)
      else (quoted start ⟨offset + 1, rest⟩).map fun (text, last) => (c :: text, last) := by
  rw [quoted]
  split
  · rfl
  · split
    · split <;> rename_i h <;> simp only [h]
    · rfl

theorem word_nil (inRange : Bool) (offset : Nat) :
    word inRange ⟨offset, []⟩ = .ok (.empty, ⟨offset, []⟩) := by
  rw [word]

theorem word_cons (inRange : Bool) (offset : Nat) (c : Char) (rest : List Char) :
    word inRange ⟨offset, c :: rest⟩ =
      if endsWord inRange c then .ok (.empty, ⟨offset, c :: rest⟩)
      else if c = '\\' then
        match escape offset rest with
        | .error e => .error e
        | .ok (e, next) => (word inRange next).map fun (w, last) => (w.consEscaped e, last)
      else (word inRange ⟨offset + 1, rest⟩).map fun (w, last) => (w.cons c, last) := by
  rw [word]
  split
  · rfl
  · split
    · split <;> rename_i h <;> simp only [h]
    · rfl

theorem tokens_of_blank {range : Option Nat} {here : Cursor}
    (h : (skipBlanks here).rest = []) :
    tokens range here =
      match range with
      | some start => .error (.unterminatedRange start)
      | none => .ok [] := by
  rw [tokens.eq_def]
  split
  · cases range <;> rfl
  · rename_i h'
    rw [h] at h'
    cases h'

theorem tokens_of_cons {range : Option Nat} {here : Cursor} {c : Char} {rest : List Char}
    (h : (skipBlanks here).rest = c :: rest) :
    tokens range here =
      match token range (skipBlanks here).offset c rest with
      | .error e => .error e
      | .ok step =>
        (tokens step.range step.next).map (⟨step.kind, (skipBlanks here).offset⟩ :: ·) := by
  rw [tokens.eq_def]
  split
  · rename_i h'
    rw [h] at h'
    cases h'
  · rename_i h'
    rw [h] at h'
    cases h'
    split <;> rename_i hs <;> simp only [hs]

theorem escape_shift (k position : Nat) (cs : List Char) :
    escape (position + k) cs =
      shifted k (fun r => (r.1, r.2.shift k)) (escape position cs) := by
  unfold escape
  split
  · rfl
  · split
    · dsimp only
      split
      · split
        · simp only [shifted, Cursor.shift]
          congr 3
          omega
        · rfl
      · rfl
    · simp only [shifted, Cursor.shift]
      congr 3
      omega

theorem quoted_shift (k start : Nat) (here : Cursor) :
    quoted (start + k) (here.shift k) =
      shifted k (fun r => (r.1, r.2.shift k)) (quoted start here) := by
  fun_induction quoted start here with
  | case1 => rw [Cursor.shift, quoted]; rfl
  | case2 offset rest =>
    rw [Cursor.shift, quoted_cons, if_pos rfl]
    simp only [shifted, Cursor.shift]
    congr 3
    omega
  | case3 offset rest e he _ =>
    rw [Cursor.shift, quoted_cons, if_neg (by decide), if_pos rfl, escape_shift, he]
    rfl
  | case4 offset rest e next he _ _ ih =>
    rw [Cursor.shift, quoted_cons, if_neg (by decide), if_pos rfl, escape_shift, he]
    simp only [shifted, ih]
    cases quoted start next <;> rfl
  | case5 offset c rest hq hb ih =>
    rw [Cursor.shift, quoted_cons, if_neg hq, if_neg hb]
    have hnext : (⟨offset + k + 1, rest⟩ : Cursor) = Cursor.shift k ⟨offset + 1, rest⟩ := by
      simp only [Cursor.shift]
      congr 1
      omega
    rw [hnext, ih]
    cases quoted start ⟨offset + 1, rest⟩ <;> rfl

theorem word_shift (k : Nat) (inRange : Bool) (here : Cursor) :
    word inRange (here.shift k) =
      shifted k (fun r => (r.1, r.2.shift k)) (word inRange here) := by
  fun_induction word inRange here with
  | case1 offset => rw [Cursor.shift, word_nil]; rfl
  | case2 offset c rest hc => rw [Cursor.shift, word_cons, if_pos hc]; rfl
  | case3 offset rest e he hc =>
    rw [Cursor.shift, word_cons, if_neg hc, if_pos rfl, escape_shift, he]
    rfl
  | case4 offset rest e next he _ hc ih =>
    rw [Cursor.shift, word_cons, if_neg hc, if_pos rfl, escape_shift, he]
    simp only [shifted, ih]
    cases word inRange next <;> rfl
  | case5 offset c rest hc hb ih =>
    rw [Cursor.shift, word_cons, if_neg hc, if_neg hb]
    have hnext : (⟨offset + k + 1, rest⟩ : Cursor) = Cursor.shift k ⟨offset + 1, rest⟩ := by
      simp only [Cursor.shift]
      congr 1
      omega
    rw [hnext, ih]
    cases word inRange ⟨offset + 1, rest⟩ <;> rfl

theorem number_shift (k : Nat) (here : Cursor) :
    number (here.shift k) = shifted k (fun r => (r.1, r.2.shift k)) (number here) := by
  have hoffset (n : Nat) : here.offset + k + n = here.offset + n + k := by omega
  unfold number
  simp only [Cursor.shift, hoffset]
  repeat' split
  all_goals rfl

theorem queryToken_shift (k offset : Nat) (c : Char) (rest : List Char) :
    queryToken (offset + k) c rest = shifted k (Step.shift k) (queryToken offset c rest) := by
  have hoffset (n : Nat) : offset + k + n = offset + n + k := by omega
  have hquoted := quoted_shift k offset ⟨offset + 1, rest⟩
  have hnumber := number_shift k ⟨offset + 1, rest⟩
  have hword := word_shift k false ⟨offset, c :: rest⟩
  simp only [Cursor.shift] at hquoted hnumber hword
  unfold queryToken
  simp only [hoffset, hquoted, hnumber, hword]
  split
  · rename_i kind _
    cases h : kind.opensRange <;> simp [shifted, Step.shift, Cursor.shift]
  split
  · rfl
  split
  · rfl
  split
  · cases quoted offset ⟨offset + 1, rest⟩ <;> rfl
  split
  · cases number ⟨offset + 1, rest⟩ <;> rfl
  split
  · cases number ⟨offset + 1, rest⟩ <;> rfl
  split
  · rfl
  · cases word false ⟨offset, c :: rest⟩ with
    | error e => rfl
    | ok r =>
      have hnext : r.2.offset + k + 1 = r.2.offset + 1 + k := by omega
      simp only [shifted, Except.map, hnext]
      split <;> rfl

theorem rangeToken_shift (k start offset : Nat) (c : Char) (rest : List Char) :
    rangeToken (start + k) (offset + k) c rest =
      shifted k (Step.shift k) (rangeToken start offset c rest) := by
  have hoffset (n : Nat) : offset + k + n = offset + n + k := by omega
  have hquoted := quoted_shift k offset ⟨offset + 1, rest⟩
  have hword := word_shift k true ⟨offset, c :: rest⟩
  simp only [Cursor.shift] at hquoted hword
  unfold rangeToken
  simp only [hoffset, hquoted, hword]
  split
  · rfl
  split
  · rfl
  split
  · cases quoted offset ⟨offset + 1, rest⟩ <;> rfl
  · cases word true ⟨offset, c :: rest⟩ <;> rfl

theorem token_shift (k : Nat) (range : Option Nat) (offset : Nat) (c : Char) (rest : List Char) :
    token (range.map (· + k)) (offset + k) c rest =
      shifted k (Step.shift k) (token range offset c rest) := by
  cases range with
  | none => exact queryToken_shift k offset c rest
  | some start => exact rangeToken_shift k start offset c rest

theorem skipBlanks_shift (k : Nat) (here : Cursor) :
    skipBlanks (here.shift k) = (skipBlanks here).shift k := by
  simp only [skipBlanks, Cursor.shift]
  congr 1
  omega

/-- The tokens of a text `k` characters further on. -/
theorem tokens_shift (k : Nat) (range : Option Nat) (here : Cursor) :
    tokens (range.map (· + k)) (here.shift k) =
      shifted k (List.map (Token.shift k)) (tokens range here) := by
  have hskip := skipBlanks_shift k here
  have hskipped : (skipBlanks (here.shift k)).rest = (skipBlanks here).rest := by rw [hskip]; rfl
  have hoffset : (skipBlanks (here.shift k)).offset = (skipBlanks here).offset + k := by
    rw [hskip]; rfl
  fun_induction tokens range here with
  | case1 here hrest start => rw [tokens_of_blank (hskipped.trans hrest)]; rfl
  | case2 here hrest => rw [tokens_of_blank (hskipped.trans hrest)]; rfl
  | case3 range here c rest hrest e hstep =>
    rw [tokens_of_cons (hskipped.trans hrest), hoffset, token_shift, hstep]
    rfl
  | case4 range here c rest hrest step hstep _ ih =>
    have ih := ih (skipBlanks_shift k _) (by rw [skipBlanks_shift]; rfl)
      (by rw [skipBlanks_shift]; rfl)
    rw [tokens_of_cons (hskipped.trans hrest), hoffset, token_shift, hstep]
    simp only [shifted, Step.shift, ih]
    cases tokens step.range step.next <;> rfl

end Lexer

end SearchQuery
