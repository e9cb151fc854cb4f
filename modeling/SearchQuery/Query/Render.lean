import SearchQuery.Query
import SearchQuery.Number.Spelling
import SearchQuery.Text.Blank

/-!
The canonical text of a query: `+` or `-` before a clause, `field:` before a leaf, parentheses
around a boolean query within another, `~` before a similarity or slop and `^` before a boost.
Characters with a meaning of their own are escaped, so that the text can be read back.
-/

namespace SearchQuery

open Number (Single)
open Text (isBlank)

/-- The words that are operators. -/
def isKeyword (text : String) : Bool := text == "AND" || text == "OR" || text == "NOT"

/-- Whether a character of a word needs a backslash. The backslashes of a pattern are its own. -/
def isReserved (pattern first : Bool) (c : Char) : Bool :=
  if c = '\\' then !pattern
  else
    ['"', '(', ')', '^', '~', ':', '[', ']', '{', '}'].contains c ||
      (first && ['+', '-', '!', '&', '|'].contains c) || isBlank c

/-- A character of a word, with a backslash if it needs one. -/
def escapeChar (pattern first : Bool) (c : Char) : List Char :=
  if isReserved pattern first c then ['\\', c] else [c]

/-- The characters of a word. -/
def escapeChars (pattern : Bool) : List Char → List Char
  | [] => []
  | c :: rest => escapeChar pattern true c ++ rest.flatMap (escapeChar pattern false)

/-- A term, a field name or a pattern as one word. -/
def escapeTerm (pattern : Bool) (text : String) : List Char :=
  if isKeyword text then '\\' :: escapeChars pattern text.toList
  else escapeChars pattern text.toList

/-- A character of a range bound. -/
def escapeBoundChar (c : Char) : List Char :=
  if isBlank c || ['\\', '"', ']', '}'].contains c then ['\\', c] else [c]

/-- A bound of a range. The word between the bounds and the sign of an open bound are escaped. -/
def escapeBound (text : String) : List Char :=
  if text == "TO" || text == "*" then '\\' :: text.toList.flatMap escapeBoundChar
  else text.toList.flatMap escapeBoundChar

/-- A character between quotes. -/
def escapePhraseChar (c : Char) : List Char :=
  if c = '\\' ∨ c = '"' then ['\\', c] else [c]

/-- A term of a phrase. -/
def escapePhraseTerm (text : String) : List Char := text.toList.flatMap escapePhraseChar

/-- The boost at the end of a query, unless it is one. -/
def boostSuffix (boost : Single) : List Char :=
  if boost.numEq Single.one then [] else '^' :: boost.canonical

/-- The sign before a clause. -/
def Occur.sign : Occur → List Char
  | must => ['+']
  | should => []
  | mustNot => ['-']

/-- The text of a leaf. -/
def Leaf.spelling : Leaf → List Char
  | term field text => escapeTerm false field ++ ':' :: escapeTerm false text
  | phrase field terms slop =>
    escapeTerm false field ++ ':' :: '"' :: [' '].intercalate (terms.map escapePhraseTerm) ++
      '"' :: (if slop = 0 then [] else '~' :: Nat.toDigits 10 slop.toNat)
  | fuzzy field text similarity _ =>
    escapeTerm false field ++ ':' :: escapeTerm false text ++ '~' :: similarity.canonical
  | wildcard field pattern => escapeTerm false field ++ ':' :: escapeTerm true pattern
  | range field lower upper includeLower includeUpper =>
    escapeTerm false field ++ ':' :: (if includeLower then '[' else '{') ::
      (lower.map escapeBound).getD ['*'] ++ " TO ".toList ++
      (upper.map escapeBound).getD ['*'] ++ [if includeUpper then ']' else '}']
  | matchAll => "*:*".toList

namespace Query

mutual

/-- The characters of the canonical text. -/
def spelling : Query → List Char
  | leaf l boost => l.spelling ++ boostSuffix boost
  | boolean clauses boost =>
    let body := [' '].intercalate (clauseSpellings clauses)
    if boost.numEq Single.one then body else '(' :: body ++ ')' :: boostSuffix boost

/-- The text of each clause. A boolean query stands in parentheses. -/
def clauseSpellings : List (Clause Query) → List (List Char)
  | [] => []
  | ⟨occur, query⟩ :: rest =>
    (occur.sign ++
      (if query.isBoolean then '(' :: spelling query ++ [')'] else spelling query)) ::
      clauseSpellings rest

end

/-- The canonical text. -/
def render (query : Query) : String := String.ofList query.spelling

end Query

end SearchQuery
