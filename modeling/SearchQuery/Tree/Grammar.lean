import SearchQuery.Error
import SearchQuery.Tree

/-!
From tokens to a tree, by the grammar

    query    := sequence
    sequence := either+
    either   := both (OR both)*
    both     := without (AND without)*
    without  := unary (NOT unary)*
    unary    := (+ | - | NOT) unary | suffixed
    suffixed := primary (^ number | ~ number?)*
    primary  := FIELD base | base
    base     := ( sequence ) | TERM | WILDCARD | PHRASE | range
    range    := ([ | {) bound TO bound (] | })
    bound    := TERM | PHRASE | WILDCARD

where the operands of a sequence are joined by the default operator. Groups and the signs before an
operand nest up to a given depth. The parser of an operand is a function of the depth left, and the
loops of the levels above it are bounded by the number of tokens left.
-/

namespace SearchQuery.Grammar

open Number (Single)

/-- Reads a tree from the front of a token list. -/
abbrev Parse := List Token → Except SyntaxError (Tree × List Token)

/-- Whether an operand may start with a token. -/
def startsOperand : Token.Kind → Bool
  | .term _ | .wildcard _ | .phrase _ | .field _ | .leftParen | .leftBracket | .leftBrace => true
  | .plus | .minus | .not => true
  | _ => false

/-- Whether a token may follow a field name. -/
def startsBase : Token.Kind → Bool
  | .term _ | .wildcard _ | .phrase _ | .leftParen | .leftBracket | .leftBrace => true
  | _ => false

/-- Whether a token stands before its operand. -/
def isSign : Token.Kind → Bool
  | .plus | .minus | .not => true
  | _ => false

/-- Whether the next token satisfies a test. -/
def next (test : Token.Kind → Bool) (ts : List Token) : Bool := ts.head?.any (test ·.kind)

/-- The operands that follow the first one of a level, each after its operator. -/
def operands (operator : Token.Kind) (operand : Parse) :
    Nat → List Token → Except SyntaxError (List Tree × List Token)
  | n + 1, t :: rest =>
    if t.kind = operator then
      if next startsOperand rest then do
        let (tree, after) ← operand rest
        let (trees, last) ← operands operator operand n after
        return (tree :: trees, last)
      else .error (.noRightOperand t.kind t.offset)
    else .ok ([], t :: rest)
  | _, ts => .ok ([], ts)

/-- One level of binary operators. A single operand stands for itself. -/
def level (operator : Token.Kind) (junction : Junction) (operand : Parse) : Parse := fun ts => do
  let (first, rest) ← operand ts
  let (others, last) ← operands operator operand rest.length rest
  return (if others.isEmpty then first else .group junction (first :: others), last)

/-- The three levels of binary operators above an operand. -/
def either (unary : Parse) : Parse :=
  level .or .or (level .and .and (level .not .not unary))

/-- The elements up to a closing parenthesis or the end. -/
def elements (element : Parse) :
    Nat → List Token → Except SyntaxError (List Tree × List Token)
  | n + 1, t :: rest =>
    if t.kind = .rightParen then .ok ([], t :: rest)
    else do
      let (tree, after) ← element (t :: rest)
      let (trees, last) ← elements element n after
      return (tree :: trees, last)
  | _, ts => .ok ([], ts)

/-- Operands side by side. A single one stands for itself. -/
def sequence (operator : Operator) (unary : Parse) : Parse := fun ts => do
  let (trees, rest) ← elements (either unary) ts.length ts
  match trees with
  | [] => .error (.emptyGroup (rest.head?.map Token.offset))
  | [tree] => return (tree, rest)
  | trees => return (.group (.implicit operator) trees, rest)

/-- A bound of the range opened at `position`, absent if it is open. -/
def bound (position : Nat) : List Token → Except SyntaxError (Option String × List Token)
  | ⟨.wildcard pattern, _⟩ :: rest => .ok (if pattern = "*" then none else some pattern, rest)
  | ⟨.term text, _⟩ :: rest => .ok (some text, rest)
  | ⟨.phrase text, _⟩ :: rest => .ok (some text, rest)
  | _ => .error (.missingBound position)

/-- The word between the bounds. -/
def boundSeparator (position : Nat) : List Token → Except SyntaxError (List Token)
  | ⟨.rangeTo, _⟩ :: rest => .ok rest
  | _ => .error (.missingTo position)

/-- The end of a range, and whether it includes the upper bound. -/
def rangeEnd (position : Nat) : List Token → Except SyntaxError (Bool × List Token)
  | ⟨.rightBracket, _⟩ :: rest => .ok (true, rest)
  | ⟨.rightBrace, _⟩ :: rest => .ok (false, rest)
  | _ => .error (.tooManyBounds position)

/-- A range after its opening bracket at `position`. -/
def range (includeLower : Bool) (position : Nat) : Parse := fun ts => do
  let (lower, rest) ← bound position ts
  let rest ← boundSeparator position rest
  let (upper, rest) ← bound position rest
  let (includeUpper, rest) ← rangeEnd position rest
  return (.atom none (.range lower upper includeLower includeUpper), rest)

/-- The sequence in a group, after its parenthesis at `position`. -/
def group (operator : Operator) (unary : Parse) (position : Nat) : Parse := fun ts => do
  let (tree, rest) ← sequence operator unary ts
  match rest with
  | ⟨.rightParen, _⟩ :: after => return (tree, after)
  | _ => .error (.unclosedGroup position)

/-- An operand without a field name. The parser `deeper` reads the operands one level further in,
and is absent where the depth `limit` is reached. -/
def base (operator : Operator) (limit : Nat) (deeper : Option Parse) : Parse
  | [] => .error .endOfInput
  | t :: rest =>
    match t.kind with
    | .leftParen =>
      match deeper with
      | none => .error (.tooDeep limit t.offset)
      | some unary => group operator unary t.offset rest
    | .term text =>
      .ok (.atom none (if text = "*" then .wildcard text else .term text), rest)
    | .wildcard pattern => .ok (.atom none (.wildcard pattern), rest)
    | .phrase text => .ok (.atom none (.phrase text none), rest)
    | .leftBracket => range true t.offset rest
    | .leftBrace => range false t.offset rest
    | .and | .or | .not => .error (.noLeftOperand t.kind t.offset)
    | .caret _ | .tilde _ => .error (.danglingModifier t.kind t.offset)
    | _ => .error (.unexpected t.kind t.offset)

/-- An operand with or without a field name. -/
def primary (operator : Operator) (limit : Nat) (deeper : Option Parse) : Parse
  | ⟨.field name, offset⟩ :: rest =>
    if next startsBase rest then do
      let (tree, after) ← base operator limit deeper rest
      return (tree.under name, after)
    else .error (.emptyScope name offset)
  | ts => base operator limit deeper ts

/-- Whether an operand starts with a group, under a field name or not. -/
def startsGroup : List Token → Bool
  | ⟨.field _, _⟩ :: rest => next (· = .leftParen) rest
  | ts => next (· = .leftParen) ts

/-- Makes a term fuzzy, or gives a phrase its slop. -/
def applyTilde (tree : Tree) (value : Option Single) (position : Nat) :
    Except SyntaxError Tree :=
  match tree with
  | .atom field (.term text) =>
    match value with
    | some s =>
      if s.inUnitInterval then .ok (.atom field (.fuzzy text value))
      else .error (.similarityOutOfRange s position)
    | none => .ok (.atom field (.fuzzy text none))
  | .atom field (.phrase text _) => .ok (.atom field (.phrase text (value.map Single.toWord)))
  | _ => .error (.tildeOnOther position)

/-- Puts the boost, if there is one, around an operand. -/
def boosted (boost : Option Single) (tree : Tree) : Tree :=
  match boost with
  | some value => .boost value tree
  | none => tree

/-- The boosts and the similarity or slop after an operand. Boosts multiply. -/
def suffixes (grouped : Bool) (tree : Tree) (boost : Option Single) (tilde : Bool) : Parse
  | [] => .ok (boosted boost tree, [])
  | t :: rest =>
    match t.kind with
    | .caret (some value) =>
      let product := (boost.getD Single.one).mul value
      if product.isFinite then suffixes grouped tree (some product) tilde rest
      else .error (.boostOutOfRange t.offset)
    | .caret none => .error (.missingBoost t.offset)
    | .tilde value =>
      if tilde then .error (.repeatedTilde t.offset)
      else if grouped then .error (.tildeOnGroup t.offset)
      else
        match applyTilde tree value t.offset with
        | .ok tree => suffixes grouped tree boost true rest
        | .error e => .error e
    | _ => .ok (boosted boost tree, t :: rest)

/-- An operand and what is written after it. -/
def suffixed (operator : Operator) (limit : Nat) (deeper : Option Parse) : Parse := fun ts => do
  let (tree, rest) ← primary operator limit deeper ts
  suffixes (startsGroup ts) tree none false rest

/-- An operand with the sign before it. -/
def signed (operator : Operator) (limit : Nat) (deeper : Option Parse) : Parse
  | [] => suffixed operator limit deeper []
  | t :: rest =>
    if isSign t.kind then
      if next startsOperand rest then
        match deeper with
        | none => .error (.tooDeep limit t.offset)
        | some unary => do
          let (tree, after) ← unary rest
          return (if t.kind = .plus then .required tree else .prohibited tree, after)
      else .error (.noOperand t.kind t.offset)
    else suffixed operator limit deeper (t :: rest)

/-- The operands that open at most the given number of further groups and signs. -/
def unary (operator : Operator) (limit : Nat) : Nat → Parse
  | 0 => signed operator limit none
  | depth + 1 => signed operator limit (some (unary operator limit depth))

end SearchQuery.Grammar

namespace SearchQuery

/-- The tree of a token list, under the default field. -/
def Tree.ofTokens (tokens : List Token) (field : String) (operator : Operator) (maxDepth : Nat) :
    Except SyntaxError Tree :=
  if tokens.isEmpty then .error .emptyQuery
  else do
    let (tree, rest) ← Grammar.sequence operator (Grammar.unary operator maxDepth maxDepth) tokens
    match rest with
    | [] => return .scope field tree
    | t :: _ => .error (.unbalanced t.kind t.offset)

end SearchQuery
