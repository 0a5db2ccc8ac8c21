import LetterToSound.Text.Basic

namespace LetterToSound

/-- The code points with the Unicode property White_Space. -/
def blanks : CodeRanges :=
  [(0x9, 0xD), (0x20, 0x20), (0x85, 0x85), (0xA0, 0xA0), (0x1680, 0x1680), (0x2000, 0x200A),
    (0x2028, 0x2029), (0x202F, 0x202F), (0x205F, 0x205F), (0x3000, 0x3000)]

def isBlank (c : Char) : Bool := blanks.contains c

namespace Text

/-- Drops the blanks at both ends. -/
def trim (t : Text) : Text :=
  ((t.dropWhile isBlank).reverse.dropWhile isBlank).reverse

/-- The pieces between separators, each trimmed. -/
def pieces (separator : Char) (t : Text) : List Text :=
  (t.splitOn separator).map trim

/-- The maximal runs of code points that are not blank. -/
def words (t : Text) : List Text :=
  (t.splitOnP isBlank).filter (· ≠ [])

end Text

end LetterToSound
