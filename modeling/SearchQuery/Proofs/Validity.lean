import SearchQuery.Proofs.Lowering.Validity
import SearchQuery.Proofs.Parsing

/-!
Which parsed queries are valid. A parser that was made by its constructors has settings that it can
work with, a text has sound tokens and a sound tree, and what is left to ask is whether boosts fit.
Main statement: a parsed query is valid exactly if every operand of its tree fits where it is
placed, which is so whenever analysis drops nothing; otherwise a boost of it is not finite.
-/

namespace SearchQuery

open Number (Single)

namespace Parser

/-- The parsers that can be made: with the settings that hold by default or with settings that pass
their check, and then with single settings replaced. -/
inductive Made : Parser → Prop
  | default (analyzer : Analyzer) : Made { analyzer := analyzer }
  | configured {analyzer : Analyzer} {config : Config} {p : Parser}
      (accepted : withConfig analyzer config = .ok p) : Made p
  | withDefaultOperator {p : Parser} (operator : Operator) (made : Made p) :
      Made (p.withDefaultOperator operator)
  | withMaxClauseCount {p : Parser} (count : UInt64) (made : Made p) :
      Made (p.withMaxClauseCount count)
  | withDebugTrace {p : Parser} (enabled : Bool) (made : Made p) : Made (p.withDebugTrace enabled)

/-- The default similarity of a parser is at least zero and below one. -/
theorem Made.similar {p : Parser} (h : p.Made) :
    p.config.fuzzyMinSimilarity.inUnitInterval = true := by
  induction h with
  | default => exact (by decide : Single.half.inUnitInterval = true)
  | @configured analyzer config p accepted =>
    unfold withConfig at accepted
    split at accepted
    · cases accepted
    · rename_i hvalid
      cases accepted
      unfold Config.validate at hvalid
      split at hvalid
      · cases hvalid
      split at hvalid
      · cases hvalid
      split at hvalid
      · assumption
      · cases hvalid
  | withDefaultOperator _ _ ih => exact ih
  | withMaxClauseCount _ _ ih => exact ih
  | withDebugTrace _ _ ih => exact ih

/-- Every tree of a text is sound. -/
theorem Reads.sound {p : Parser} {text : String} {t : Tree} (h : p.Reads text t) : t.Sound := by
  obtain ⟨ks, hspells, hread⟩ := h
  obtain ⟨ts, hts, rfl⟩ := exists_tokenize_iff.mpr hspells
  refine Grammar.inherited_sound.spelled hread fun k hk => ?_
  obtain ⟨token, htoken, rfl⟩ := List.mem_map.mp hk
  exact Lexer.tokens_sound hts token htoken

/-- A parsed query is valid exactly if every operand of its tree fits where it is placed. This is so
whenever analysis leaves something of every atom, and the only fault is a boost that is not
finite. -/
theorem validate_parse_iff {p : Parser} {text field : String} {q : Query} (made : p.Made)
    (named : field ≠ "") (parsed : p.parse text field = .ok q) :
    ∃ t, p.tree text field = .ok t ∧
      (q.validate = .ok () ↔ t.fitsAlone p.analyzer p.config field = true) ∧
      (t.keepsAtoms p.analyzer p.config field = true → q.validate = .ok ()) ∧
      ∀ fault, q.validate = .error fault →
        ∃ boost : Single, fault = .boost boost ∧ boost.isFinite = false := by
  obtain ⟨t, u, hread, hu, rfl, -⟩ := parse_eq_ok_iff.mp parsed
  have htree : p.tree text field = .ok (.scope field t) := tree_eq_ok_iff.mpr ⟨t, rfl, hread⟩
  have hsound : (Tree.scope field t).Sound := .scope named hread.sound
  have hscope : Operand.ofTree p.analyzer p.config field (.scope field t) = .ok u := by
    rwa [Operand.ofTree]
  have hreports := Query.reports_ofTree made.similar named hsound hscope
  have hkeeps := Tree.fitsAlone_of_keepsAtoms made.similar named hsound hscope
  refine ⟨.scope field t, htree, ?_⟩
  cases hfits : (Tree.scope field t).fitsAlone p.analyzer p.config field with
  | true =>
    rw [hfits] at hreports
    have hok : u.toQuery.validate = .ok () := hreports
    rw [hok]
    simp
  | false =>
    rw [hfits] at hreports hkeeps
    obtain ⟨boost, herror, hboost⟩ : ∃ boost : Single, u.toQuery.validate = .error (.boost boost) ∧
        boost.isFinite = false := hreports
    rw [herror]
    refine ⟨by simp, fun hk => absurd (hkeeps hk) (by simp), ?_⟩
    rintro fault ⟨⟩
    exact ⟨boost, rfl, hboost⟩

/-- The empty phrase is dropped, so that the group is a boosted term, and its boost times the one
around the group is infinite. -/
def overflowing : String := "(\"\" a^100000000000000000000)^1000000000000000000000000000000"

theorem validate_parse_iff_overflowing :
    Made ⟨.keyword, {}⟩ ∧ "f" ≠ "" ∧ ∃ q, parse ⟨.keyword, {}⟩ overflowing "f" = .ok q ∧
      q.render = "f:a^inf" ∧ q.validate ≠ .ok () ∧
      ∃ t, tree ⟨.keyword, {}⟩ overflowing "f" = .ok t ∧ t.fitsAlone .keyword {} "f" = false := by
  have hmade : Made ⟨.keyword, {}⟩ := .default .keyword
  obtain ⟨q, hparse, hshown⟩ : ∃ q, parse ⟨.keyword, {}⟩ overflowing "f" = .ok q ∧
      (q.render == "f:a^inf" && !q.validate.toBool) = true :=
    Except.exists_eq_ok_of_any (by decide +kernel)
  rw [Bool.and_eq_true, beq_iff_eq] at hshown
  have hinvalid : q.validate ≠ .ok () := by
    intro hvalid
    simp [hvalid, Except.toBool] at hshown
  obtain ⟨t, htree, hiff, -, -⟩ := validate_parse_iff hmade (by decide) hparse
  have hfits : t.fitsAlone .keyword {} "f" ≠ true := fun hfits => hinvalid (hiff.mpr hfits)
  exact ⟨hmade, by decide, q, hparse, hshown.1, hinvalid, t, htree,
    by simpa using hfits⟩

end Parser

end SearchQuery
