import SearchQuery.Token

/-!
What can go wrong, as causes, and the messages that report them. Positions count characters from
the start of the query text.
-/

namespace SearchQuery

open Number (Single)

/-- Why a text cannot be cut into tokens. -/
inductive LexError
  | unterminatedRange (start : Nat)
  | bareColon (position : Nat)
  | trailingBackslash (position : Nat)
  /-- Fewer than four hexadecimal digits follow. -/
  | shortUnicodeEscape (position : Nat)
  /-- The four digits are a surrogate. -/
  | unicodeEscape (digits : String) (position : Nat)
  | unterminatedQuote (start : Nat)
  | afterNumber (found : Char) (number : String) (position : Nat)
  | numberOutOfRange (number : String) (position : Nat)
  | invalidNumber (number : String) (position : Nat)
deriving DecidableEq

/-- What makes a query unfit to be rendered. -/
inductive Malformed
  | boost (value : Single)
  | emptyField
  | emptyPhrase
  | similarity (value : Single)
  | emptyPattern
deriving DecidableEq

/-- Why tokens do not form a query, or a query has no meaning. -/
inductive SyntaxError
  | emptyQuery
  | unbalanced (found : Token.Kind) (position : Nat)
  /-- A group without operands, where the text goes on or ends. -/
  | emptyGroup (position : Option Nat)
  | noRightOperand (operator : Token.Kind) (position : Nat)
  | noOperand (operator : Token.Kind) (position : Nat)
  | noLeftOperand (operator : Token.Kind) (position : Nat)
  | tooDeep (limit position : Nat)
  | boostOutOfRange (position : Nat)
  | missingBoost (position : Nat)
  | repeatedTilde (position : Nat)
  | tildeOnGroup (position : Nat)
  | similarityOutOfRange (value : Single) (position : Nat)
  | tildeOnOther (position : Nat)
  | emptyScope (field : String) (position : Nat)
  | endOfInput
  | unclosedGroup (position : Nat)
  | danglingModifier (modifier : Token.Kind) (position : Nat)
  | unexpected (found : Token.Kind) (position : Nat)
  | missingTo (position : Nat)
  | tooManyBounds (position : Nat)
  | missingBound (position : Nat)
  /-- The boosts around an operand multiply to a number that is not finite. -/
  | combinedBoost (boost : Single)
  | malformed (fault : Malformed)
deriving DecidableEq

/-- Why a configuration is refused. -/
inductive ConfigError
  | zeroClauseCount
  | zeroDepth
  | similarity (value : Single)
  /-- The stored form is not the JSON of a configuration. -/
  | undecodable
deriving DecidableEq

/-- An error of the library. -/
inductive Error
  | lexical (cause : LexError)
  | grammatical (cause : SyntaxError)
  | tooManyClauses (max count : Nat)
  /-- An analyzer could not handle a text. -/
  | analysis (detail : String)
  | config (cause : ConfigError)
deriving DecidableEq

/-- The kinds of errors. -/
inductive Error.Kind
  | lexical
  | grammatical
  | tooManyClauses
  | analysis
  | config
deriving DecidableEq

namespace LexError

def message : LexError → String
  | unterminatedRange start => s!"unterminated range starting at position {start}"
  | bareColon position => s!"unexpected ':' without a field name at position {position}"
  | trailingBackslash position => s!"trailing backslash at position {position}"
  | shortUnicodeEscape position => s!"invalid unicode escape at position {position}"
  | unicodeEscape digits position =>
    s!"invalid unicode escape '\\u{digits}' at position {position}"
  | unterminatedQuote start => s!"unterminated quoted string starting at position {start}"
  | afterNumber found number position =>
    s!"unexpected '{found}' after number '{number}' at position {position}"
  | numberOutOfRange number position => s!"number '{number}' out of range at position {position}"
  | invalidNumber number position => s!"invalid number '{number}' at position {position}"

end LexError

namespace Malformed

def message : Malformed → String
  | boost value => s!"invalid boost {value}"
  | emptyField => "empty field name"
  | emptyPhrase => "phrase without terms"
  | similarity value => s!"fuzzy similarity {value} outside [0, 1)"
  | emptyPattern => "empty wildcard pattern"

end Malformed

namespace SyntaxError

def message : SyntaxError → String
  | emptyQuery => "empty query"
  | unbalanced found position => s!"unbalanced {found.describe} at position {position}"
  | emptyGroup (some position) => s!"empty group at position {position}"
  | emptyGroup none => "empty group at end of input"
  | noRightOperand operator position =>
    s!"{operator.describe} at position {position} has no right operand"
  | noOperand operator position => s!"{operator.describe} at position {position} has no operand"
  | noLeftOperand operator position =>
    s!"{operator.describe} at position {position} has no left operand"
  | tooDeep limit position =>
    s!"query nesting exceeds the maximum depth of {limit} at position {position}"
  | boostOutOfRange position => s!"boost at position {position} is out of range"
  | missingBoost position => s!"'^' at position {position} requires a boost value"
  | repeatedTilde position => s!"repeated '~' at position {position}"
  | tildeOnGroup position => s!"'~' at position {position} cannot apply to a group"
  | similarityOutOfRange value position =>
    s!"fuzzy similarity {value} at position {position} must be at least 0 and below 1"
  | tildeOnOther position => s!"'~' at position {position} only applies to a term or a phrase"
  | emptyScope field position =>
    s!"field '{field}:' at position {position} must be followed by a term, phrase, range or group"
  | endOfInput => "unexpected end of input, expected an operand"
  | unclosedGroup position => s!"unbalanced '(' at position {position}"
  | danglingModifier modifier position =>
    s!"modifier {modifier.describe} at position {position} has no operand"
  | unexpected found position => s!"unexpected {found.describe} at position {position}"
  | missingTo position => s!"range at position {position} is missing 'TO'"
  | tooManyBounds position => s!"range at position {position} has too many bounds"
  | missingBound position => s!"range at position {position} is missing a bound"
  | combinedBoost boost => s!"boost {boost} is out of range"
  | malformed fault => s!"malformed query: {fault.message}"

end SyntaxError

namespace ConfigError

def message : ConfigError → String
  | zeroClauseCount => "max_clause_count must be greater than 0"
  | zeroDepth => "max_depth must be greater than 0"
  | similarity value => s!"fuzzy_min_similarity must be in [0, 1), got {value}"
  | undecodable => "not the JSON of a configuration"

end ConfigError

namespace Error.Kind

/-- The words before the details of an error. -/
def label : Kind → String
  | lexical => "lex error"
  | grammatical => "syntax error"
  | tooManyClauses => "too many boolean clauses"
  | analysis => "analysis error"
  | config => "invalid config"

/-- The message of an error with the given details. -/
def report (kind : Kind) (detail : String) : String := kind.label ++ ": " ++ detail

/-- Whether the query text itself is at fault, and not a limit or the configuration. -/
def isInputError : Kind → Bool
  | lexical | grammatical => true
  | _ => false

end Error.Kind

namespace Error

def kind : Error → Kind
  | lexical _ => .lexical
  | grammatical _ => .grammatical
  | tooManyClauses .. => .tooManyClauses
  | analysis _ => .analysis
  | config _ => .config

def detail : Error → String
  | lexical cause => cause.message
  | grammatical cause => cause.message
  | tooManyClauses max count => s!"{count} exceeds the maximum of {max}"
  | analysis detail => detail
  | config cause => cause.message

def message (e : Error) : String := e.kind.report e.detail

def isInputError (e : Error) : Bool := e.kind.isInputError

end Error

end SearchQuery
