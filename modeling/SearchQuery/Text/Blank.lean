import SearchQuery.Text.Ranges

/-!
White space: the characters that separate words and tokens.
-/

namespace SearchQuery.Text

/-- The code points with the White_Space property. -/
def blanks : Ranges :=
  [(0x0009, 0x000D), (0x0020, 0x0020), (0x0085, 0x0085), (0x00A0, 0x00A0), (0x1680, 0x1680),
    (0x2000, 0x200A), (0x2028, 0x2029), (0x202F, 0x202F), (0x205F, 0x205F), (0x3000, 0x3000)]

def isBlank (c : Char) : Bool := blanks.has c.toNat

end SearchQuery.Text
