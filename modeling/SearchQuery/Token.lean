import SearchQuery.Number.Spelling

/-!
Tokens of the query language.
-/

namespace SearchQuery

open Number (Single)

/-- What a token says. -/
inductive Token.Kind
  /-- An unquoted word with its escapes resolved. -/
  | term (text : String)
  /-- An unquoted word with an unescaped `*` or `?`. Any literal `*`, `?` or backslash in it stays
  escaped. -/
  | wildcard (pattern : String)
  /-- A quoted text. -/
  | phrase (text : String)
  /-- A word and the colon after it. -/
  | field (name : String)
  | and
  | or
  | not
  | plus
  | minus
  | leftParen
  | rightParen
  /-- The start of a range that includes its lower bound. -/
  | leftBracket
  | rightBracket
  /-- The start of a range that excludes its lower bound. -/
  | leftBrace
  | rightBrace
  /-- The word between the bounds of a range. -/
  | rangeTo
  /-- A boost, with the number written right after it. -/
  | caret (value : Option Single)
  /-- A similarity or a slop, with the number written right after it. -/
  | tilde (value : Option Single)
deriving DecidableEq

/-- A token and the number of characters before it. -/
structure Token where
  kind : Token.Kind
  offset : Nat
deriving DecidableEq

namespace Token.Kind

/-- How messages name a token. -/
def describe : Kind → String
  | term text => "term '" ++ text ++ "'"
  | wildcard pattern => "wildcard '" ++ pattern ++ "'"
  | phrase text => "phrase \"" ++ text ++ "\""
  | field name => "field '" ++ name ++ ":'"
  | and => "'AND'"
  | or => "'OR'"
  | not => "'NOT'"
  | plus => "'+'"
  | minus => "'-'"
  | leftParen => "'('"
  | rightParen => "')'"
  | leftBracket => "'['"
  | rightBracket => "']'"
  | leftBrace => "'\x7b'"
  | rightBrace => "'\x7d'"
  | rangeTo => "'TO'"
  | caret _ => "'^'"
  | tilde _ => "'~'"

/-- Whether a range starts here. -/
def opensRange : Kind → Bool
  | leftBracket | leftBrace => true
  | _ => false

end Token.Kind

end SearchQuery
