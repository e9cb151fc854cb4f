import Mathlib.Tactic.Common
import SearchQuery.Tree.Grammar

/-!
The grammar as a relation between token kinds and trees, one language for each level. The language
of the operands one level further in is a parameter, and the depth counts how often it is entered.
-/

namespace SearchQuery.Grammar

open Number (Single)

/-- Which token kinds spell which tree. -/
abbrev Language := List Token.Kind → Tree → Prop

def kinds (ts : List Token) : List Token.Kind := ts.map Token.kind

/-- The operands that follow the first one of a level. -/
inductive Others (operator : Token.Kind) (operand : Language) :
    List Token.Kind → List Tree → Prop
  | nil : Others operator operand [] []
  | cons {ks rest : List Token.Kind} {t : Tree} {ts : List Tree} (first : operand ks t)
      (others : Others operator operand rest ts) :
      Others operator operand (operator :: (ks ++ rest)) (t :: ts)

/-- One level of binary operators. -/
inductive Level (operator : Token.Kind) (junction : Junction) (operand : Language) : Language
  | single {ks : List Token.Kind} {t : Tree} (only : operand ks t) :
      Level operator junction operand ks t
  | several {ks rest : List Token.Kind} {t u : Tree} {us : List Tree} (first : operand ks t)
      (others : Others operator operand rest (u :: us)) :
      Level operator junction operand (ks ++ rest) (.group junction (t :: u :: us))

/-- The three levels of binary operators above an operand. -/
def Either (unary : Language) : Language :=
  Level .or .or (Level .and .and (Level .not .not unary))

/-- Elements side by side. After an element `NOT` is a binary operator, so that no later element
starts with it. -/
inductive Elements (element : Language) : List Token.Kind → List Tree → Prop
  | single {ks : List Token.Kind} {t : Tree} (only : element ks t) : Elements element ks [t]
  | cons {ks rest : List Token.Kind} {t : Tree} {ts : List Tree} (first : element ks t)
      (others : Elements element rest ts) (notInfix : rest.head? ≠ some .not) :
      Elements element (ks ++ rest) (t :: ts)

/-- Operands side by side. -/
inductive Sequence (operator : Operator) (unary : Language) : Language
  | single {ks : List Token.Kind} {t : Tree} (only : Either unary ks t) :
      Sequence operator unary ks t
  | several {ks : List Token.Kind} {t u : Tree} {us : List Tree}
      (all : Elements (Either unary) ks (t :: u :: us)) :
      Sequence operator unary ks (.group (.implicit operator) (t :: u :: us))

/-- A bound of a range. A lone `*` is an open one. -/
inductive Bound : Token.Kind → Option String → Prop
  | opened : Bound (.wildcard "*") none
  | wildcard {pattern : String} (closed : pattern ≠ "*") : Bound (.wildcard pattern) (some pattern)
  | term {text : String} : Bound (.term text) (some text)
  | phrase {text : String} : Bound (.phrase text) (some text)

/-- The bracket that opens a range. -/
def opening (includeLower : Bool) : Token.Kind := if includeLower then .leftBracket else .leftBrace

/-- The bracket that closes a range. -/
def closing (includeUpper : Bool) : Token.Kind :=
  if includeUpper then .rightBracket else .rightBrace

/-- An operand without a field name, with operands of `deeper` in its groups. -/
inductive Base (operator : Operator) (deeper : Language) : Language
  | group {ks : List Token.Kind} {t : Tree} (inner : Sequence operator deeper ks t) :
      Base operator deeper (.leftParen :: (ks ++ [.rightParen])) t
  | all : Base operator deeper [.term "*"] (.atom none (.wildcard "*"))
  | term {text : String} (plain : text ≠ "*") :
      Base operator deeper [.term text] (.atom none (.term text))
  | wildcard {pattern : String} :
      Base operator deeper [.wildcard pattern] (.atom none (.wildcard pattern))
  | phrase {text : String} : Base operator deeper [.phrase text] (.atom none (.phrase text none))
  | range {lo hi : Token.Kind} {lower upper : Option String} {includeLower includeUpper : Bool}
      (below : Bound lo lower) (above : Bound hi upper) :
      Base operator deeper [opening includeLower, lo, .rangeTo, hi, closing includeUpper]
        (.atom none (.range lower upper includeLower includeUpper))

/-- An operand with or without a field name. -/
inductive Primary (operator : Operator) (deeper : Language) : Language
  | plain {ks : List Token.Kind} {t : Tree} (base : Base operator deeper ks t) :
      Primary operator deeper ks t
  | under {name : String} {ks : List Token.Kind} {t : Tree} (base : Base operator deeper ks t) :
      Primary operator deeper (.field name :: ks) (t.under name)

/-- What `~` makes of an operand. -/
inductive Tilded : Tree → Option Single → Tree → Prop
  | fuzzy {field : Option String} {text : String} {value : Option Single}
      (inRange : ∀ s, value = some s → s.inUnitInterval = true) :
      Tilded (.atom field (.term text)) value (.atom field (.fuzzy text value))
  | slop {field : Option String} {text : String} {old : Option UInt32} {value : Option Single} :
      Tilded (.atom field (.phrase text old)) value
        (.atom field (.phrase text (value.map Single.toWord)))

/-- The boosts and the similarity or slop after an operand. Each running product of boosts is
finite, and at most one `~` stands there, not after a group. -/
inductive Suffixes (grouped : Bool) : Tree → Option Single → Bool → List Token.Kind → Tree → Prop
  | nil {tree : Tree} {boost : Option Single} {tilde : Bool} :
      Suffixes grouped tree boost tilde [] (boosted boost tree)
  | caret {tree result : Tree} {boost : Option Single} {tilde : Bool} {value : Single}
      {ks : List Token.Kind} (finite : ((boost.getD Single.one).mul value).isFinite = true)
      (more : Suffixes grouped tree (some ((boost.getD Single.one).mul value)) tilde ks result) :
      Suffixes grouped tree boost tilde (.caret (some value) :: ks) result
  | tilde {tree tilded result : Tree} {boost value : Option Single} {ks : List Token.Kind}
      (ungrouped : grouped = false) (applied : Tilded tree value tilded)
      (more : Suffixes grouped tilded boost true ks result) :
      Suffixes grouped tree boost false (.tilde value :: ks) result

/-- Whether an operand is written as a group, under a field name or not. -/
def opensGroup : List Token.Kind → Bool
  | .field _ :: k :: _ => k == .leftParen
  | k :: _ => k == .leftParen
  | [] => false

/-- An operand and what is written after it. -/
inductive Suffixed (operator : Operator) (deeper : Language) : Language
  | intro {ks rest : List Token.Kind} {t result : Tree} (primary : Primary operator deeper ks t)
      (suffixes : Suffixes (opensGroup ks) t none false rest result) :
      Suffixed operator deeper (ks ++ rest) result

/-- An operand with the sign before it. -/
inductive Signed (operator : Operator) (deeper : Language) : Language
  | required {ks : List Token.Kind} {t : Tree} (operand : deeper ks t) :
      Signed operator deeper (.plus :: ks) (.required t)
  | prohibited {k : Token.Kind} {ks : List Token.Kind} {t : Tree} (negative : k = .minus ∨ k = .not)
      (operand : deeper ks t) : Signed operator deeper (k :: ks) (.prohibited t)
  | plain {ks : List Token.Kind} {t : Tree} (operand : Suffixed operator deeper ks t) :
      Signed operator deeper ks t

/-- The operands that open at most the given number of groups and signs at once. -/
def Unary (operator : Operator) : Nat → Language
  | 0 => Signed operator fun _ _ => False
  | depth + 1 => Signed operator (Unary operator depth)

end SearchQuery.Grammar
