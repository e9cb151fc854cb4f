import SearchQuery.Proofs.Canonical.RoundTrip

/-!
What the slops of phrases come back as. The text of a phrase has all digits of its slop, and the
number after a `~` is read as a single. Main statement: the text of a phrase is read as the phrase
with its slop rounded to the bits of a single, and so as the phrase itself exactly if the slop has
no more bits than that or is the largest word.
-/

namespace SearchQuery

open Grammar (Sequence Unary Primary Suffixed opensGroup Language)
open Lexer (Spells phraseText)
open Number (Single Format)
open Number.Single (rereadWord)
open Text (isBlank)

/-- A phrase without a boost. -/
def Query.ofPhrase (field : String) (terms : List String) (slop : UInt32) : Query :=
  .leaf (.phrase field terms slop) Single.one

/-- The tree of the text of a phrase, with the slop that comes back. -/
def phraseTree (field : String) (terms : List String) (slop : UInt32) : Tree :=
  .atom (some field)
    (.phrase (phraseText terms) (if slop = 0 then none else some (rereadWord slop)))

theorem Tree.boostedBy_one (t : Tree) : t.boostedBy Single.one = t := if_pos (by decide)

/-- The text of a phrase needs no depth. -/
theorem spelled_ofPhrase {field : String} (terms : List String) (slop : UInt32) (named : field ≠ "")
    (deeper : Language) :
    Spelled (Suffixed .or deeper) (Query.ofPhrase field terms slop).spelling
      (phraseTree field terms slop) := by
  have hsloppy := spelled_sloppy terms slop named (by decide : Single.one.isUnsigned = true) deeper
  rwa [Tree.boostedBy_one] at hsloppy

/-- The tree of a phrase makes the phrase with the slop that comes back. No slop is the slop that
holds by default. -/
theorem Operand.ofTree_phraseTree {name : String} {terms : List String} (slop : UInt32)
    (several : 2 ≤ terms.length)
    (words : ∀ text ∈ terms, text ≠ "" ∧ ∀ c ∈ text.toList, isBlank c = false) (field : String) :
    Operand.ofTree .whitespace {} field (phraseTree name terms slop) =
      .ok (.ofQuery (.ofPhrase name terms (rereadWord slop))) := by
  have hslop : (if slop = 0 then none else some (rereadWord slop)).getD 0 = rereadWord slop := by
    split
    · rename_i hzero
      rw [hzero, Option.getD_none]
      decide
    · rfl
  have hleaf := Leaf.ofTerms?_of_several name (rereadWord slop) several
  rw [phraseTree, Operand.ofTree, Leaf.ofAtom?, Option.getD_some, analyze_phraseText name words]
  simp only [Except.map, hslop, hleaf]
  rfl

theorem Query.ofPhrase_inj {field : String} {terms : List String} {slop slop' : UInt32} :
    ofPhrase field terms slop' = ofPhrase field terms slop ↔ slop' = slop := by
  simp [ofPhrase]

/-- The canonical text of a phrase is read as the phrase with the slop that comes back, which is the
same phrase exactly if the slop has no more significant bits than a single or is the largest
word. -/
theorem Parser.parse_render_phrase {name : String} {terms : List String} (slop : UInt32)
    (named : name ≠ "") (several : 2 ≤ terms.length)
    (words : ∀ text ∈ terms, text ≠ "" ∧ ∀ c ∈ text.toList, isBlank c = false) (field : String) :
    Parser.parse { analyzer := .whitespace } (Query.ofPhrase name terms slop).render field =
        .ok (.ofPhrase name terms (rereadWord slop)) ∧
      (Parser.parse { analyzer := .whitespace } (Query.ofPhrase name terms slop).render field =
          .ok (.ofPhrase name terms slop) ↔
        Format.single.Significant slop.toNat ∨ slop.toNat = Single.maxWord) := by
  have hunary : Spelled (Unary .or ({} : Config).maxDepth.toNat) _ (phraseTree name terms slop) :=
    Query.unary_of_suffixed fun deeper => spelled_ofPhrase terms slop named deeper
  obtain ⟨ks, hspells, hread, -⟩ := hunary.mono fun _ h => Sequence.single (Query.either_of_unary h)
  have hreads : Parser.Reads { analyzer := .whitespace } (Query.ofPhrase name terms slop).render
      (phraseTree name terms slop) := by
    refine ⟨ks, ?_, hread⟩
    rwa [Query.render, String.toList_ofList]
  have hparse : Parser.parse { analyzer := .whitespace } (Query.ofPhrase name terms slop).render
      field = .ok (.ofPhrase name terms (rereadWord slop)) :=
    parse_eq_ok_iff.mpr
      ⟨_, _, hreads, Operand.ofTree_phraseTree slop several words field, rfl, Nat.zero_le _⟩
  refine ⟨hparse, ?_⟩
  rw [hparse, Except.ok.injEq, Query.ofPhrase_inj, Single.rereadWord_eq_self_iff]

/-- The first slop with too many bits loses its last one. The next slop and the largest one come
back. -/
theorem Parser.parse_render_phrase_large :
    let phrase (slop : UInt32) := Query.ofPhrase "f" ["a", "\"b"] slop
    let read (slop : UInt32) := Parser.parse { analyzer := .whitespace } (phrase slop).render "g"
    read 16777217 = .ok (phrase 16777216) ∧ read 16777217 ≠ .ok (phrase 16777217) ∧
      read 16777218 = .ok (phrase 16777218) ∧ read 4294967295 = .ok (phrase 4294967295) := by
  intro phrase read
  have hwords : ∀ text ∈ ["a", "\"b"], text ≠ "" ∧ ∀ c ∈ text.toList, isBlank c = false := by
    have hblank : isBlank 'a' = false ∧ isBlank '"' = false ∧ isBlank 'b' = false := by decide
    simpa using hblank
  have hread := fun slop =>
    Parser.parse_render_phrase slop (by decide : "f" ≠ "") (by decide) hwords "g"
  have hodd : read 16777217 = .ok (phrase 16777216) := (hread 16777217).1
  refine ⟨hodd, ?_, (hread 16777218).2.mpr (.inl ?_), (hread 4294967295).2.mpr (.inr rfl)⟩
  · rw [hodd, ne_eq, Except.ok.injEq, Query.ofPhrase_inj]
    decide
  · exact ⟨8388609, 1, by decide, rfl⟩

end SearchQuery
