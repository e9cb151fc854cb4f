import SearchQuery.Proofs.Lexer.Append
import SearchQuery.Proofs.Lexer.Kinds

/-!
What holds of the tokens of every text. They stand one after the other at characters of the text
that are no white space, no word among them is empty, and a range that is opened goes on with bounds
until it is closed. Each fact is one about a single step, handed on along the run of the lexer. Main
statement: `tokenize_laidOut`.
-/

namespace SearchQuery

open Number (Single)
open Text (isBlank)

namespace Token.Kind

/-- Whether a range ends here. -/
def closesRange : Kind → Bool
  | rightBracket | rightBrace => true
  | _ => false

/-- Whether a token can stand between the brackets of a range. -/
def standsInRange : Kind → Bool
  | term _ | wildcard _ | phrase _ | rangeTo => true
  | _ => false

end Token.Kind

/-- Bounds come first, and then a bracket that closes their range. -/
def StartsInRange (ks : List Token.Kind) : Prop :=
  ∃ inside closing rest, ks = inside ++ closing :: rest ∧
    (∀ k ∈ inside, k.standsInRange = true) ∧ closing.closesRange = true

/-- Bounds come last, behind a bracket that opens their range. -/
def EndsInRange (ks : List Token.Kind) : Prop :=
  ∃ earlier opening inside, ks = earlier ++ opening :: inside ∧ opening.opensRange = true ∧
    ∀ k ∈ inside, k.standsInRange = true

/-- How the tokens of a text lie in it. -/
structure LaidOut (text : String) (ts : List Token) : Prop where
  ascending : ts.Pairwise fun t u => t.offset < u.offset
  /-- A token starts at a character of the text. -/
  placed : ∀ t ∈ ts, ∃ c, text.toList[t.offset]? = some c ∧ isBlank c = false
  wellFormed : ∀ t ∈ ts, t.kind.WellFormed
  /-- A range that is opened is closed. -/
  closed : ∀ before opening after, ts.map Token.kind = before ++ opening :: after →
    opening.opensRange = true → StartsInRange after
  /-- The word between bounds stands in a range that is still open. -/
  between : ∀ before after, ts.map Token.kind = before ++ .rangeTo :: after → EndsInRange before

namespace Lexer

/-! ## Places -/

theorem escape_suffix {position : Nat} {cs : List Char} {e : Char} {next : Cursor}
    (h : escape position cs = .ok (e, next)) : next.rest <:+ cs := by
  unfold escape at h
  split at h
  · cases h
  · split at h
    · dsimp only at h
      split at h
      · split at h <;> cases h
        exact (List.drop_suffix 4 _).trans (List.suffix_cons _ _)
      · cases h
    · cases h
      exact List.suffix_cons _ _

theorem quoted_suffix {start : Nat} {here : Cursor} {text : List Char} {next : Cursor}
    (h : quoted start here = .ok (text, next)) : next.rest <:+ here.rest := by
  fun_induction quoted start here generalizing text next with
  | case1 => cases h
  | case2 =>
    cases h
    exact List.suffix_cons _ _
  | case3 => cases h
  | case4 offset rest e mid hmid _ _ ih =>
    obtain ⟨⟨t, last⟩, hq, heq⟩ := Except.map_eq_ok_iff.mp h
    cases heq
    exact (ih hq).trans ((escape_suffix hmid).trans (List.suffix_cons _ _))
  | case5 offset c rest _ _ ih =>
    obtain ⟨⟨t, last⟩, hq, heq⟩ := Except.map_eq_ok_iff.mp h
    cases heq
    exact (ih hq).trans (List.suffix_cons _ _)

theorem word_suffix {inRange : Bool} {here : Cursor} {w : Word} {next : Cursor}
    (h : word inRange here = .ok (w, next)) : next.rest <:+ here.rest := by
  fun_induction word inRange here generalizing w next with
  | case1 =>
    cases h
    exact List.suffix_rfl
  | case2 =>
    cases h
    exact List.suffix_rfl
  | case3 => cases h
  | case4 offset rest e mid hmid _ _ ih =>
    obtain ⟨⟨w', last⟩, hw, heq⟩ := Except.map_eq_ok_iff.mp h
    cases heq
    exact (ih hw).trans ((escape_suffix hmid).trans (List.suffix_cons _ _))
  | case5 offset c rest _ _ ih =>
    obtain ⟨⟨w', last⟩, hw, heq⟩ := Except.map_eq_ok_iff.mp h
    cases heq
    exact (ih hw).trans (List.suffix_cons _ _)

theorem number_suffix {here : Cursor} {value : Option Single} {next : Cursor}
    (h : number here = .ok (value, next)) : next.rest <:+ here.rest := by
  unfold number at h
  dsimp only at h
  split at h
  · split at h
    · cases h
    · cases h
    · split at h <;> cases h
      exact List.drop_suffix _ _
  · cases h
    exact List.suffix_rfl

theorem QueryStep.suffix {offset : Nat} {c : Char} {rest : List Char} {s : Step}
    (h : QueryStep offset c rest s) : s.next.rest <:+ c :: rest := by
  cases h with
  | sign => exact List.suffix_cons _ _
  | double => exact (List.tail_suffix _).trans (List.suffix_cons _ _)
  | phrase _ read => exact (quoted_suffix read).trans (List.suffix_cons _ _)
  | number _ read => exact (number_suffix read).trans (List.suffix_cons _ _)
  | field _ read => exact (List.tail_suffix _).trans (word_suffix read)
  | word _ read => exact word_suffix read

theorem RangeStep.suffix {start offset : Nat} {c : Char} {rest : List Char} {s : Step}
    (h : RangeStep start offset c rest s) : s.next.rest <:+ c :: rest := by
  cases h with
  | closing => exact List.suffix_cons _ _
  | phrase _ read => exact (quoted_suffix read).trans (List.suffix_cons _ _)
  | word _ _ read => exact word_suffix read

/-- A place in a text: what is left of the text there, behind as many characters as the place
says. -/
structure Cursor.In (text : List Char) (here : Cursor) : Prop where
  suffix : here.rest <:+ text
  total : here.total = text.length

theorem Cursor.In.getElem? {text : List Char} {here : Cursor} (h : here.In text) :
    text[here.offset]? = here.rest.head? := by
  obtain ⟨⟨before, rfl⟩, htotal⟩ := h
  simp only [Cursor.total, List.length_append, Nat.add_right_cancel_iff] at htotal
  rw [htotal, List.getElem?_append_right (Nat.le_refl _), Nat.sub_self, List.head?_eq_getElem?]

theorem Cursor.In.skipBlanks {text : List Char} {here : Cursor} (h : here.In text) :
    (skipBlanks here).In text where
  suffix := (List.dropWhile_suffix isBlank).trans h.suffix
  total := (skipBlanks_total here).trans h.total

/-- A step goes on to a later place of the same text. -/
theorem Cursor.In.step {text : List Char} {range : Option Nat} {offset : Nat} {c : Char}
    {rest : List Char} {s : Step} (h : Cursor.In text ⟨offset, c :: rest⟩)
    (hblank : isBlank c = false) (hread : token range offset c rest = .ok s) :
    s.next.In text ∧ offset < s.next.offset := by
  have htotal := token_total hread
  have hsuffix : s.next.rest <:+ c :: rest := by
    cases range with
    | none => exact (queryToken_eq_ok_iff.mp hread).suffix
    | some start => exact (rangeToken_eq_ok_iff.mp hread).suffix
  have hwhole := h.total
  have hshorter := token_shorter hblank hread
  simp only [Cursor.total, List.length_cons] at hwhole htotal
  refine ⟨⟨hsuffix.trans h.suffix, ?_⟩, by omega⟩
  simp only [Cursor.total]
  omega

/-- The tokens of a run stand one after the other, at characters that are no white space. -/
theorem Run.placed {range : Option Nat} {here : Cursor} {ts : List Token} (h : Run range here ts)
    {text : List Char} (hin : here.In text) :
    (ts.Pairwise fun t u => t.offset < u.offset) ∧
      ∀ t ∈ ts, here.offset ≤ t.offset ∧ ∃ c, text[t.offset]? = some c ∧ isBlank c = false := by
  induction h with
  | done => exact ⟨.nil, by simp⟩
  | @step range here c rest s ts skipped read _ ih =>
    have hblank := isBlank_of_skipBlanks skipped
    have hskipped := hin.skipBlanks
    have hat : Cursor.In text ⟨(skipBlanks here).offset, c :: rest⟩ := by
      rw [← skipped]
      exact hskipped
    obtain ⟨hnext, hlater⟩ := hat.step hblank read
    obtain ⟨hascending, hplaced⟩ := ih hnext
    have hstart : here.offset ≤ (skipBlanks here).offset := Nat.le_add_right _ _
    constructor
    · refine List.pairwise_cons.mpr ⟨?_, hascending⟩
      intro t ht
      exact Nat.lt_of_lt_of_le hlater (hplaced t ht).1
    · intro t ht
      rcases List.mem_cons.mp ht with rfl | ht
      · exact ⟨hstart, c, hat.getElem?, hblank⟩
      · obtain ⟨hfrom, hchar⟩ := hplaced t ht
        exact ⟨by omega, hchar⟩

/-! ## Ranges -/

/-- Tokens in which each range that is opened is closed, where `inRange` says whether one is open
before them. -/
inductive Ranged : Bool → List Token.Kind → Prop
  | nil : Ranged false []
  | outside {k : Token.Kind} {ks : List Token.Kind} (remains : k.opensRange = false)
      (apart : k ≠ .rangeTo) (more : Ranged false ks) : Ranged false (k :: ks)
  | opening {k : Token.Kind} {ks : List Token.Kind} (opens : k.opensRange = true)
      (more : Ranged true ks) : Ranged false (k :: ks)
  | inside {k : Token.Kind} {ks : List Token.Kind} (stands : k.standsInRange = true)
      (more : Ranged true ks) : Ranged true (k :: ks)
  | closing {k : Token.Kind} {ks : List Token.Kind} (closes : k.closesRange = true)
      (more : Ranged false ks) : Ranged true (k :: ks)

theorem Word.standsInRange_plainKind (w : Word) : w.plainKind.standsInRange = true := by
  unfold plainKind
  split <;> rfl

theorem Word.standsInRange_rangeKind (w : Word) : w.rangeKind.standsInRange = true := by
  unfold rangeKind
  split
  · rfl
  · exact w.standsInRange_plainKind

theorem Word.queryKind_outside (w : Word) :
    w.queryKind.opensRange = false ∧ w.queryKind ≠ .rangeTo := by
  unfold queryKind plainKind
  repeat' split
  all_goals exact ⟨rfl, by simp⟩

/-- Outside of ranges a step opens a range exactly if it reads an opening bracket, and it never reads
the word between bounds. -/
theorem QueryStep.opens {offset : Nat} {c : Char} {rest : List Char} {s : Step}
    (h : QueryStep offset c rest s) :
    s.range.isSome = s.kind.opensRange ∧ s.kind ≠ .rangeTo := by
  cases h with
  | @sign kind sign =>
    refine ⟨by cases hk : kind.opensRange <;> simp, ?_⟩
    rintro rfl
    unfold sign? at sign
    split at sign <;> cases sign
  | double sign => cases sign <;> exact ⟨rfl, by simp⟩
  | phrase => exact ⟨rfl, by simp⟩
  | number sign => cases sign <;> exact ⟨rfl, by simp⟩
  | field => exact ⟨rfl, by simp⟩
  | @word w =>
    obtain ⟨hopens, hword⟩ := w.queryKind_outside
    exact ⟨hopens.symm, hword⟩

/-- In a range a step closes it, or reads what can stand there. -/
theorem RangeStep.closes_or_stands {start offset : Nat} {c : Char} {rest : List Char} {s : Step}
    (h : RangeStep start offset c rest s) :
    s.range = none ∧ s.kind.closesRange = true ∨
      s.range = some start ∧ s.kind.standsInRange = true := by
  cases h with
  | closing sign => exact .inl ⟨rfl, by cases sign <;> rfl⟩
  | phrase => exact .inr ⟨rfl, rfl⟩
  | @word w => exact .inr ⟨rfl, w.standsInRange_rangeKind⟩

/-- A run closes the ranges that it opens. -/
theorem Run.ranged {range : Option Nat} {here : Cursor} {ts : List Token} (h : Run range here ts) :
    Ranged range.isSome (ts.map Token.kind) := by
  induction h with
  | done => exact .nil
  | @step range here c rest s ts _ read _ ih =>
    rw [List.map_cons]
    cases range with
    | none =>
      obtain ⟨hopens, hword⟩ := (queryToken_eq_ok_iff.mp read).opens
      rw [hopens] at ih
      cases hk : s.kind.opensRange with
      | false => exact .outside hk hword (hk ▸ ih)
      | true => exact .opening hk (hk ▸ ih)
    | some start =>
      rcases (rangeToken_eq_ok_iff.mp read).closes_or_stands with
        ⟨hnone, hcloses⟩ | ⟨hsome, hstands⟩
      · rw [hnone] at ih
        exact .closing hcloses ih
      · rw [hsome] at ih
        exact .inside hstands ih

/-- What is in a range goes on to its end. -/
theorem Ranged.startsInRange {inRange : Bool} {ks : List Token.Kind} (h : Ranged inRange ks)
    (hopen : inRange = true) : StartsInRange ks := by
  induction h with
  | nil => cases hopen
  | outside => cases hopen
  | opening => cases hopen
  | @inside k ks stands _ ih =>
    obtain ⟨inside, closing, rest, rfl, hinside, hcloses⟩ := ih rfl
    exact ⟨k :: inside, closing, rest, rfl, List.forall_mem_cons.mpr ⟨stands, hinside⟩, hcloses⟩
  | @closing k ks closes => exact ⟨[], k, ks, rfl, by simp, closes⟩

theorem Ranged.step {inRange : Bool} {k : Token.Kind} {ks : List Token.Kind}
    (h : Ranged inRange (k :: ks)) : ∃ inRange', Ranged inRange' ks ∧
      (inRange' = true → k.opensRange = true ∨ inRange = true ∧ k.standsInRange = true) := by
  cases h with
  | outside _ _ more => exact ⟨false, more, by simp⟩
  | opening opens more => exact ⟨true, more, fun _ => .inl opens⟩
  | inside stands more => exact ⟨true, more, fun _ => .inr ⟨rfl, stands⟩⟩
  | closing _ more => exact ⟨false, more, by simp⟩

/-- A range is open behind some tokens only if one of them opened it or it was open before them. -/
theorem Ranged.split {inRange : Bool} {before ks : List Token.Kind}
    (h : Ranged inRange (before ++ ks)) : ∃ inRange', Ranged inRange' ks ∧
      (inRange' = true → EndsInRange before ∨
        inRange = true ∧ ∀ k ∈ before, k.standsInRange = true) := by
  induction before generalizing inRange with
  | nil => exact ⟨inRange, h, fun hopen => .inr ⟨hopen, by simp⟩⟩
  | cons k before ih =>
    obtain ⟨mid, hmid, hstep⟩ := h.step
    obtain ⟨inRange', hks, hopen⟩ := ih hmid
    refine ⟨inRange', hks, ?_⟩
    intro hin
    rcases hopen hin with ⟨earlier, opening, inside, rfl, hends⟩ | ⟨hmidopen, hstand⟩
    · exact .inl ⟨k :: earlier, opening, inside, rfl, hends⟩
    · rcases hstep hmidopen with hopens | ⟨hbefore, hk⟩
      · exact .inl ⟨[], k, before, rfl, hopens, hstand⟩
      · exact .inr ⟨hbefore, List.forall_mem_cons.mpr ⟨hk, hstand⟩⟩

/-- Behind an opening bracket there are bounds and then a closing bracket. -/
theorem Ranged.closed_of_cons {inRange : Bool} {opening : Token.Kind} {after : List Token.Kind}
    (h : Ranged inRange (opening :: after)) (hopens : opening.opensRange = true) :
    StartsInRange after := by
  cases h with
  | outside remains =>
    rw [hopens] at remains
    cases remains
  | opening _ more => exact more.startsInRange rfl
  | inside stands => cases opening <;> simp_all [Token.Kind.standsInRange, Token.Kind.opensRange]
  | closing closes => cases opening <;> simp_all [Token.Kind.closesRange, Token.Kind.opensRange]

/-- The word between bounds stands in a range. -/
theorem Ranged.inRange_of_rangeTo {inRange : Bool} {after : List Token.Kind}
    (h : Ranged inRange (.rangeTo :: after)) : inRange = true := by
  cases h with
  | outside _ apart => exact absurd rfl apart
  | opening opens => cases opens
  | inside => rfl
  | closing => rfl

end Lexer

/-- The tokens of every text are laid out. -/
theorem tokenize_laidOut {text : String} {ts : List Token} (h : tokenize text = .ok ts) :
    LaidOut text ts := by
  have hrun := Lexer.Run.of_tokens h
  have hstart : Lexer.Cursor.In text.toList ⟨0, text.toList⟩ :=
    ⟨List.suffix_rfl, Nat.zero_add _⟩
  obtain ⟨hascending, hplaced⟩ := hrun.placed hstart
  have hranged : Lexer.Ranged false (ts.map Token.kind) := hrun.ranged
  refine ⟨hascending, fun t ht => (hplaced t ht).2, hrun.wellFormed, ?_, ?_⟩
  · intro before opening after hkinds hopens
    obtain ⟨inRange, hrest, -⟩ := Lexer.Ranged.split (hkinds ▸ hranged)
    exact hrest.closed_of_cons hopens
  · intro before after hkinds
    obtain ⟨inRange, hrest, hopen⟩ := Lexer.Ranged.split (hkinds ▸ hranged)
    rcases hopen hrest.inRange_of_rangeTo with hends | ⟨hfalse, -⟩
    · exact hends
    · cases hfalse

/-- A range behind a blank, with a coded bound and a pattern with an escape, a boost, and a bracket
that closes nothing. -/
theorem tokenize_laidOut_range :
    tokenize " n:[\\u0061 TO \\*?\x7d^.5 ]" =
        .ok [⟨.field "n", 1⟩, ⟨.leftBracket, 3⟩, ⟨.term "a", 4⟩, ⟨.rangeTo, 11⟩,
          ⟨.wildcard "\\*?", 14⟩, ⟨.rightBrace, 17⟩, ⟨.caret (some .half), 18⟩,
          ⟨.rightBracket, 22⟩] ∧
      LaidOut " n:[\\u0061 TO \\*?\x7d^.5 ]"
        [⟨.field "n", 1⟩, ⟨.leftBracket, 3⟩, ⟨.term "a", 4⟩, ⟨.rangeTo, 11⟩, ⟨.wildcard "\\*?", 14⟩,
          ⟨.rightBrace, 17⟩, ⟨.caret (some .half), 18⟩, ⟨.rightBracket, 22⟩] := by
  refine ⟨?_, tokenize_laidOut ?_⟩
  · decide +kernel
  · decide +kernel

end SearchQuery
