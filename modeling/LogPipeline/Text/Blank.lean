import LogPipeline.Text.Ranges

/-!
# Blank characters

The characters with the Unicode property `White_Space`, and the two ends of a text without them.
-/

namespace LogPipeline.Text

/-- The code points with the property `White_Space`. -/
def blankRanges : Ranges :=
  [(0x9, 0xd), (0x20, 0x20), (0x85, 0x85), (0xa0, 0xa0), (0x1680, 0x1680), (0x2000, 0x200a),
   (0x2028, 0x2029), (0x202f, 0x202f), (0x205f, 0x205f), (0x3000, 0x3000)]

/-- Whether a character is white space. -/
def isBlank (c : Char) : Bool := blankRanges.contains c.toNat

/-- Whether a character is a control character: the ranges `C0`, `DEL` and `C1`. -/
def isControl (c : Char) : Bool := c.toNat < 0x20 || (0x7f ≤ c.toNat && c.toNat < 0xa0)

/-- The text without the blanks at both of its ends. -/
def trim (s : String) : String :=
  String.ofList ((s.toList.dropWhile isBlank).reverse.dropWhile isBlank).reverse

/-- The text with the letters `A` to `Z` in lower case and all else kept. -/
def asciiLower (s : String) : String := s.map Char.toLower

end LogPipeline.Text
