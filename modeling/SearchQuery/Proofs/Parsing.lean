import SearchQuery.Parser
import SearchQuery.Proofs.Grammar.Operands
import SearchQuery.Proofs.Lexer.Spelling
import SearchQuery.Proofs.Lowering.Operands

/-!
A parse as its three stages. Main statement: a text gives a query exactly if it is cut into token
kinds, they are a sequence for some tree, and the operand of that tree stands for the query.
-/

namespace SearchQuery

open Grammar (kinds Sequence Unary)
open Lexer (Spells)

theorem exists_tokenize_iff {text : String} {ks : List Token.Kind} :
    (∃ ts, tokenize text = .ok ts ∧ kinds ts = ks) ↔ Spells false text.toList ks := by
  constructor
  · rintro ⟨ts, hts, rfl⟩
    exact .of_tokens hts
  · intro h
    exact h 0 0

namespace Parser

/-- The trees of a text for a parser, without the scope of the default field. -/
def Reads (p : Parser) (text : String) (t : Tree) : Prop :=
  ∃ ks, Spells false text.toList ks ∧
    Sequence p.config.defaultOperator (Unary p.config.defaultOperator p.config.maxDepth.toNat) ks t

theorem tree_eq_ok_iff {p : Parser} {text field : String} {whole : Tree} :
    p.tree text field = .ok whole ↔ ∃ t, whole = .scope field t ∧ p.Reads text t := by
  simp only [Reads, ← exists_tokenize_iff, Parser.tree]
  cases tokenize text with
  | error e => simp
  | ok ts =>
    simp only [Except.mapError_eq_ok_iff, Tree.ofTokens_eq_ok_iff, Except.ok.injEq]
    constructor
    · rintro ⟨t, rfl, hread⟩
      exact ⟨t, rfl, kinds ts, ⟨ts, rfl, rfl⟩, hread⟩
    · rintro ⟨t, rfl, ks, ⟨ts', rfl, rfl⟩, hread⟩
      exact ⟨t, rfl, hread⟩

theorem parse_eq_ok_iff {p : Parser} {text field : String} {q : Query} :
    p.parse text field = .ok q ↔ ∃ t u, p.Reads text t ∧
      Operand.ofTree p.analyzer p.config field t = .ok u ∧ u.toQuery = q ∧
      q.clauseCount ≤ p.config.maxClauseCount.toNat := by
  unfold parse
  cases htree : p.tree text field with
  | error e =>
    simp only [reduceCtorEq, false_iff]
    rintro ⟨t, u, hread, -⟩
    rw [tree_eq_ok_iff.mpr ⟨t, rfl, hread⟩] at htree
    cases htree
  | ok tree =>
    obtain ⟨t, rfl, hread⟩ := tree_eq_ok_iff.mp htree
    simp only [Query.ofTree_eq_ok_iff, Operand.ofTree]
    constructor
    · rintro ⟨u, hu⟩
      exact ⟨t, u, hread, hu⟩
    · rintro ⟨t', u, hread', hu⟩
      rw [tree_eq_ok_iff.mpr ⟨t', rfl, hread'⟩] at htree
      cases htree
      exact ⟨u, hu⟩

end Parser

end SearchQuery
