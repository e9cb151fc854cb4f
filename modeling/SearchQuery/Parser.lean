import SearchQuery.Query.OfTree
import SearchQuery.Text.Quoted
import SearchQuery.Token.Lexer
import SearchQuery.Tree.Grammar

/-!
Parsers: an analyzer and a configuration, which together turn query text into queries.
-/

namespace SearchQuery

/-- The version of the library. -/
def version : String := "0.1.0"

/-- A parser. -/
structure Parser where
  analyzer : Analyzer
  config : Config := {}

/-- A query and the outline of the tree that it was made from. -/
structure Parsed where
  query : Query
  trace : String

/-- How much a log line matters. -/
inductive LogLevel
  | trace
  | debug
deriving DecidableEq

/-- A line of the log. -/
structure LogRecord where
  level : LogLevel
  text : String
deriving DecidableEq

namespace Parser

/-- A parser with settings that it can work with. -/
def withConfig (analyzer : Analyzer) (config : Config) : Except Error Parser :=
  match config.validate with
  | .error e => .error (.config e)
  | .ok () => .ok ⟨analyzer, config⟩

def withDefaultOperator (p : Parser) (operator : Operator) : Parser :=
  { p with config := { p.config with defaultOperator := operator } }

/-- Sets the largest number of clauses, which is at least one. -/
def withMaxClauseCount (p : Parser) (count : UInt64) : Parser :=
  { p with config := { p.config with maxClauseCount := if count = 0 then 1 else count } }

def withDebugTrace (p : Parser) (enabled : Bool) : Parser :=
  { p with config := { p.config with debugTrace := enabled } }

/-- The tree of a query text. -/
def tree (p : Parser) (text field : String) : Except Error Tree :=
  match tokenize text with
  | .error e => .error (.lexical e)
  | .ok tokens =>
    (Tree.ofTokens tokens field p.config.defaultOperator p.config.maxDepth.toNat).mapError
      Error.grammatical

/-- The query of a text, whose words without a field belong to `field`. -/
def parse (p : Parser) (text field : String) : Except Error Query :=
  match p.tree text field with
  | .error e => .error e
  | .ok tree => Query.ofTree p.analyzer p.config field tree

/-- The query of a text with the outline of its tree. -/
def parseWithTrace (p : Parser) (text field : String) : Except Error Parsed :=
  match p.tree text field with
  | .error e => .error e
  | .ok tree => (Query.ofTree p.analyzer p.config field tree).map fun query => ⟨query, tree.trace⟩

/-- The lines that parsing a text logs: the number of its tokens once it is cut into tokens, and on
demand the outline of its tree. -/
def log (p : Parser) (text field : String) : List LogRecord :=
  match tokenize text with
  | .error _ => []
  | .ok tokens =>
    ⟨.trace, s!"tokenized {tokens.length} tokens from {Text.quoted text}"⟩ ::
      match p.tree text field with
      | .error _ => []
      | .ok tree =>
        if p.config.debugTrace then
          [⟨.debug, s!"syntax tree for {Text.quoted text}:\n{tree.trace}"⟩]
        else []

end Parser

end SearchQuery
