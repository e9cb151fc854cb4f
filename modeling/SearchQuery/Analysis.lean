import SearchQuery.Error
import SearchQuery.Text.Blank
import SearchQuery.Text.Casing
import SearchQuery.Text.Runs
import SearchQuery.Text.Word

/-!
Analyzers turn the text of a term or phrase into the terms that an index holds.
-/

namespace SearchQuery

/-- A function from a field and a text to terms, and its name. -/
structure Analyzer where
  name : String
  analyze : (field text : String) → Except Error (List String)

namespace Analyzer

/-- Splits at white space and keeps the words as they are. -/
def whitespace : Analyzer where
  name := "whitespace"
  analyze _ text := .ok ((Text.runs (!Text.isBlank ·) text.toList).map String.ofList)

/-- Keeps runs of letters, in lower case. -/
def simple : Analyzer where
  name := "simple"
  analyze _ text :=
    .ok ((Text.runs Text.isLetter text.toList).map fun run => Text.lower (String.ofList run))

/-- Keeps the whole text as one term. -/
def keyword : Analyzer where
  name := "keyword"
  analyze _ text := .ok (if text.isEmpty then [] else [text])

/-- Splits at word boundaries, lower-cases the words and drops the stop words. The case of stop
words does not matter. -/
def standard (stopWords : List String) : Analyzer where
  name := "standard"
  analyze _ text :=
    let stops := stopWords.map Text.lower
    .ok (((Text.words text.toList).map fun word => Text.lower (String.ofList word)).filter
      (!stops.contains ·))

end Analyzer

/-- An analyzer for each field that has one of its own, and one for the other fields. -/
structure PerField where
  fallback : Analyzer
  /-- The analyzers of single fields, the latest first. -/
  fields : List (String × Analyzer) := []

namespace PerField

/-- Sets the analyzer of a field. -/
def add (p : PerField) (field : String) (analyzer : Analyzer) : PerField :=
  { p with fields := (field, analyzer) :: p.fields }

/-- The analyzer of a field. -/
def analyzerFor (p : PerField) (field : String) : Analyzer :=
  (p.fields.lookup field).getD p.fallback

/-- The analyzer that leaves each text to the analyzer of its field. -/
def toAnalyzer (p : PerField) : Analyzer where
  name := "per_field"
  analyze field text := (p.analyzerFor field).analyze field text

end PerField

end SearchQuery
