import SearchQuery.Number.Spelling

/-!
The tree of a query text, before its words are analyzed, and the outline that shows it.
-/

namespace SearchQuery

open Number (Single)

/-- The operator between operands that are written side by side. -/
inductive Operator
  | and
  | or
deriving DecidableEq

namespace Operator

def name : Operator → String
  | and => "AND"
  | or => "OR"

end Operator

/-- How the operands of a group are joined. -/
inductive Junction
  | and
  | or
  /-- The first operand is kept and the others are excluded. -/
  | not
  /-- The operands are written side by side. -/
  | implicit (operator : Operator)
deriving DecidableEq

namespace Junction

def name : Junction → String
  | and => "AND"
  | or => "OR"
  | not => "NOT"
  | implicit operator => "IMPLICIT(" ++ operator.name ++ ")"

end Junction

/-- An operand without parts. -/
inductive Atom
  | term (text : String)
  | phrase (text : String) (slop : Option UInt32)
  | wildcard (pattern : String)
  | fuzzy (text : String) (similarity : Option Single)
  /-- An absent bound is open. -/
  | range (lower upper : Option String) (includeLower includeUpper : Bool)
deriving DecidableEq

/-- The tree of a query text. An atom without a field belongs to the nearest scope around it. -/
inductive Tree
  | atom (field : Option String) (atom : Atom)
  | scope (field : String) (child : Tree)
  | group (junction : Junction) (children : List Tree)
  | boost (boost : Single) (child : Tree)
  | prohibited (child : Tree)
  | required (child : Tree)

namespace Atom

/-- The name of the kind of an atom. -/
def label : Atom → String
  | term _ => "TERM"
  | phrase .. => "PHRASE"
  | wildcard _ => "WILDCARD"
  | fuzzy .. => "FUZZY"
  | range .. => "RANGE"

/-- An atom as outlines show it. -/
def describe : Atom → String
  | term text => text
  | phrase text none => "\"" ++ text ++ "\""
  | phrase text (some slop) => "\"" ++ text ++ "\"~" ++ toString slop.toNat
  | wildcard pattern => pattern
  | fuzzy text none => text ++ "~"
  | fuzzy text (some similarity) => text ++ "~" ++ String.ofList similarity.canonical
  | range lower upper includeLower includeUpper =>
    (if includeLower then "[" else "\x7b") ++ lower.getD "*" ++ " TO " ++ upper.getD "*" ++
      (if includeUpper then "]" else "\x7d")

end Atom

namespace Tree

def isAtom : Tree → Bool
  | atom .. => true
  | _ => false

/-- Puts a tree under a field: an atom takes the field as its own, and any other tree is scoped. -/
def under (field : String) : Tree → Tree
  | atom _ a => atom (some field) a
  | tree => scope field tree

mutual

/-- The lines of a tree, each with its depth, a node before its children. -/
def outline (depth : Nat) : Tree → List (Nat × String)
  | atom field a =>
    [(depth, a.label ++ " " ++ (field.map (· ++ ":")).getD "" ++ a.describe)]
  | scope field child => (depth, "FIELD " ++ field) :: outline (depth + 1) child
  | group junction children =>
    (depth, "BOOLEAN " ++ junction.name) :: outlineAll (depth + 1) children
  | boost value child =>
    (depth, "BOOST " ++ String.ofList value.canonical) :: outline (depth + 1) child
  | prohibited child => (depth, "PROHIBITED") :: outline (depth + 1) child
  | required child => (depth, "REQUIRED") :: outline (depth + 1) child

/-- The lines of several trees. -/
def outlineAll (depth : Nat) : List Tree → List (Nat × String)
  | [] => []
  | tree :: rest => outline depth tree ++ outlineAll depth rest

end

/-- The outline of a tree as text, two spaces for each level. -/
def trace (tree : Tree) : String :=
  String.ofList <| (tree.outline 0).flatMap fun (depth, line) =>
    List.replicate (2 * depth) ' ' ++ line.toList ++ ['\n']

end Tree

end SearchQuery
