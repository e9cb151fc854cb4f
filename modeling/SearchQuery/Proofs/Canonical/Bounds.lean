import SearchQuery.Proofs.Canonical.RoundTrip

/-!
What the bounds of ranges come back as. The text of a bound escapes its backslashes but not its `*`
and `?`. A word with such a sign is a pattern, and a pattern keeps the escapes of its backslashes.
Main statement: the text of a range is read as the range with these backslashes doubled, and so as
the range itself exactly if no bound has a backslash beside a sign of patterns.
-/

namespace SearchQuery

open Grammar (Primary Sequence Unary)
open Lexer (isWild rereadBound)
open Number (Single)

/-- A range without a boost. -/
def Query.ofRange (name : String) (lower upper : Option String) (includeLower includeUpper : Bool) :
    Query :=
  .leaf (.range name lower upper includeLower includeUpper) Single.one

/-- A bound comes back as it is exactly if it has no backslash beside a sign of patterns. -/
theorem map_rereadBound_eq_self_iff {bound : Option String} :
    bound.map rereadBound = bound ↔
      ∀ text, bound = some text → ¬ ('\\' ∈ text.toList ∧ text.toList.any isWild = true) := by
  cases bound with
  | none => simp
  | some text =>
    rw [Option.map_some, Option.some.injEq, Lexer.rereadBound_eq_self_iff]
    simp

theorem Query.ofRange_inj {name : String} {lower upper lower' upper' : Option String}
    {includeLower includeUpper : Bool} :
    ofRange name lower' upper' includeLower includeUpper =
        ofRange name lower upper includeLower includeUpper ↔ lower' = lower ∧ upper' = upper := by
  simp [ofRange]

/-- The text of a range alone needs no depth. -/
theorem spelled_ofRange {name : String} {lower upper : Option String} (depth : Nat)
    (includeLower includeUpper : Bool) (named : name ≠ "") (lower_ne : lower ≠ some "")
    (upper_ne : upper ≠ some "") :
    Spelled (Sequence .or (Unary .or depth))
      (Query.ofRange name lower upper includeLower includeUpper).spelling
      (.atom (some name)
        (.range (lower.map rereadBound) (upper.map rereadBound) includeLower includeUpper)) := by
  have hprimary : ∀ deeper, Spelled (Primary .or deeper) _ _ := fun deeper =>
    spelled_primary (spelled_range includeLower includeUpper named lower_ne upper_ne)
  have hunary : Spelled (Unary .or depth) _ _ := Query.unary_of_suffixed fun deeper =>
    spelled_suffixed (by decide : Single.one.isUnsigned = true) (hprimary deeper)
  exact hunary.mono fun _ h => .single (Query.either_of_unary h)

/-- Where bounds are not lower-cased, the tree of a range makes that range. -/
theorem Operand.ofTree_range {config : Config} (literal : config.lowercaseExpandedTerms = false)
    (analyzer : Analyzer) (field name : String) (lower upper : Option String)
    (includeLower includeUpper : Bool) :
    Operand.ofTree analyzer config field
        (.atom (some name) (.range lower upper includeLower includeUpper)) =
      .ok (.ofQuery (.ofRange name lower upper includeLower includeUpper)) := by
  have hexpand : ∀ bound : Option String, bound.map config.expand = bound := by
    intro bound
    cases bound <;> simp [Config.expand, literal]
  rw [Operand.ofTree, Leaf.ofAtom?, hexpand, hexpand]
  rfl

namespace Parser

/-- The canonical text of a range is read as the range with the bounds that come back, which is the
same range exactly if no bound has a backslash beside a sign of patterns. -/
theorem parse_render_range {p : Parser} {name : String} {lower upper : Option String}
    {includeLower includeUpper : Bool} (operator : p.config.defaultOperator = .or)
    (literal : p.config.lowercaseExpandedTerms = false) (named : name ≠ "")
    (lower_ne : lower ≠ some "") (upper_ne : upper ≠ some "") (field : String) :
    p.parse (Query.ofRange name lower upper includeLower includeUpper).render field =
        .ok (.ofRange name (lower.map rereadBound) (upper.map rereadBound) includeLower
          includeUpper) ∧
      (p.parse (Query.ofRange name lower upper includeLower includeUpper).render field =
          .ok (.ofRange name lower upper includeLower includeUpper) ↔
        ∀ text, lower = some text ∨ upper = some text →
          ¬ ('\\' ∈ text.toList ∧ text.toList.any isWild = true)) := by
  obtain ⟨ks, hspells, hread, -⟩ := spelled_ofRange p.config.maxDepth.toNat includeLower
    includeUpper named lower_ne upper_ne
  have hreads : p.Reads (Query.ofRange name lower upper includeLower includeUpper).render
      (.atom (some name)
        (.range (lower.map rereadBound) (upper.map rereadBound) includeLower includeUpper)) := by
    refine ⟨ks, ?_, ?_⟩
    · rwa [Query.render, String.toList_ofList]
    · rwa [operator]
  have hparse : p.parse (Query.ofRange name lower upper includeLower includeUpper).render field =
      .ok (.ofRange name (lower.map rereadBound) (upper.map rereadBound) includeLower
        includeUpper) := by
    have hoperand := Operand.ofTree_range literal p.analyzer field name (lower.map rereadBound)
      (upper.map rereadBound) includeLower includeUpper
    exact parse_eq_ok_iff.mpr ⟨_, _, hreads, hoperand, rfl, Nat.zero_le _⟩
  refine ⟨hparse, ?_⟩
  rw [hparse, Except.ok.injEq, Query.ofRange_inj, map_rereadBound_eq_self_iff,
    map_rereadBound_eq_self_iff]
  constructor
  · rintro ⟨hlower, hupper⟩ text (htext | htext)
    · exact hlower text htext
    · exact hupper text htext
  · intro h
    exact ⟨fun text htext => h text (.inl htext), fun text htext => h text (.inr htext)⟩

/-- A backslash before a star comes back as two. Brackets, quotes, blanks and the word between bounds
come back as they are, and so do stars without a backslash. -/
theorem parse_render_range_slashes :
    Parser.parse ⟨.whitespace, { lowercaseExpandedTerms := false }⟩
        (Query.ofRange "n" (some "a\\*") (some "TO") true false).render "f" =
      .ok (.ofRange "n" (some "a\\\\*") (some "TO") true false) ∧
    Parser.parse ⟨.whitespace, { lowercaseExpandedTerms := false }⟩
        (Query.ofRange "n" (some "\\] \"") (some "*?]") false true).render "f" =
      .ok (.ofRange "n" (some "\\] \"") (some "*?]") false true) := by
  constructor
  · exact (parse_render_range rfl rfl (by decide) (by decide) (by decide) "f").1
  · refine (parse_render_range rfl rfl (by decide) (by decide) (by decide) "f").2.mpr ?_
    rintro text (htext | htext) <;> cases htext <;> decide

end Parser

end SearchQuery
