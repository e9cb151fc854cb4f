import SearchQuery.Text.WordBreak

/-!
Segmentation of text at word boundaries. A boundary between two characters depends on the classes of
the character before it, of the last two characters before it that are not transparent, of the next
such character after it, and on the number of regional indicators in a row.
-/

namespace SearchQuery.Text

namespace Word

/-- What a boundary can see of the text before it. -/
structure Context where
  /-- The class of the character right before. -/
  previous : WordBreak
  /-- The last class that is not transparent, or that of a transparent character which stands at the
  start of the text or of a line. -/
  last : WordBreak
  /-- The class before `last`, found in the same way. -/
  beforeLast : Option WordBreak
  /-- Whether an odd number of regional indicators ends here. -/
  oddIndicators : Bool

/-- The context at the start of the text, after its first character. -/
def Context.start (c : WordBreak) : Context :=
  ⟨c, c, none, c == .regionalIndicator⟩

/-- The context after one more character. -/
def Context.push (x : Context) (c : WordBreak) : Context :=
  if c.isTransparent && !x.previous.isLineEnd then { x with previous := c }
  else
    { previous := c
      last := c
      beforeLast := some x.last
      oddIndicators :=
        c == .regionalIndicator && !(x.last == .regionalIndicator && x.oddIndicators) }

/-- The characters of a text with their classes, where `previous` is the class before the text. -/
def classified (previous : WordBreak) : List Char → List (Char × WordBreak)
  | [] => []
  | c :: rest =>
    let k := WordBreak.after previous c
    (c, k) :: classified k rest

/-- Whether the first class in `rest` that is not transparent completes what a mark such as an
apostrophe has begun. A tied pictograph completes everything. -/
def completes (wanted : WordBreak → Bool) : List (Char × WordBreak) → Bool
  | [] => false
  | (_, k) :: rest =>
    if k.isTransparent then completes wanted rest else k == .tiedPictograph || wanted k

/-- Whether no boundary stands before a character of class `k` that `rest` follows. Earlier lines
win. Nothing but transparent characters and further tied pictographs joins a tied pictograph. -/
def joins (x : Context) (k : WordBreak) (rest : List (Char × WordBreak)) : Bool :=
  if x.previous = .carriageReturn ∧ k = .lineFeed then true
  else if x.previous.isLineEnd || k.isLineEnd then false
  else if k = .tiedPictograph then true
  else if x.previous = .space ∧ k = .space then true
  else if k.isTransparent then true
  else if x.last.isLetterLike && k.isLetterLike then true
  else if x.last.isLetterLike && k.joinsLetters && completes (·.isLetterLike) rest then true
  else if x.beforeLast.any (·.isLetterLike) && x.last.joinsLetters && k.isLetterLike then true
  else if x.last = .hebrewLetter ∧ k = .singleQuote then true
  else if x.last == .hebrewLetter && k == .doubleQuote && completes (· == .hebrewLetter) rest then
    true
  else if x.beforeLast = some .hebrewLetter ∧ x.last = .doubleQuote ∧ k = .hebrewLetter then true
  else if x.last = .digit ∧ (k = .digit ∨ k.isLetterLike) then true
  else if x.last.isLetterLike ∧ k = .digit then true
  else if x.beforeLast = some .digit ∧ x.last.joinsDigits ∧ k = .digit then true
  else if x.last == .digit && k.joinsDigits && completes (· == .digit) rest then true
  else if x.last = .katakana ∧ k = .katakana then true
  else if (x.last.joinsConnector || x.last = .connector) ∧ k = .connector then true
  else if x.last = .connector ∧ k.joinsConnector then true
  else x.last = .regionalIndicator ∧ k = .regionalIndicator ∧ x.oddIndicators

/-- The segments of the rest of a text, where `word` holds the characters read since the last
boundary, last character first. -/
def segmentsFrom (x : Context) (word : List Char) : List (Char × WordBreak) → List (List Char)
  | [] => [word.reverse]
  | (c, k) :: rest =>
    if joins x k rest then segmentsFrom (x.push k) (c :: word) rest
    else word.reverse :: segmentsFrom (x.push k) [c] rest

/-- The segments between word boundaries. They make up the whole text. -/
def segments (cs : List Char) : List (List Char) :=
  match classified .other cs with
  | [] => []
  | (c, k) :: rest => segmentsFrom (.start k) [c] rest

theorem map_fst_classified (previous : WordBreak) (cs : List Char) :
    (classified previous cs).map Prod.fst = cs := by
  induction cs generalizing previous with
  | nil => rfl
  | cons c rest ih => simp [classified, ih]

theorem flatten_segmentsFrom (x : Context) (word : List Char) (rest : List (Char × WordBreak)) :
    (segmentsFrom x word rest).flatten = word.reverse ++ rest.map Prod.fst := by
  induction rest generalizing x word with
  | nil => simp [segmentsFrom]
  | cons c rest ih =>
    simp only [segmentsFrom]
    split <;> simp [ih]

/-- Segmentation keeps every character. -/
theorem flatten_segments (cs : List Char) : (segments cs).flatten = cs := by
  cases cs with
  | nil => rfl
  | cons c rest => simp [segments, classified, flatten_segmentsFrom, map_fst_classified]

end Word

/-- The words of a text: the segments that hold a letter or a numeral. -/
def words (cs : List Char) : List (List Char) :=
  (Word.segments cs).filter (·.any isAlphanumeric)

end SearchQuery.Text
