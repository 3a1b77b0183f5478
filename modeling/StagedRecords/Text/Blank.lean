import StagedRecords.Text.Ranges

/-!
# White space

The characters with the property `White_Space`, and what is left of a text without those at its
ends.
-/

namespace StagedRecords.Text

/-- The ranges of white space. -/
def blankRanges : Ranges :=
  [(9, 13), (32, 32), (133, 133), (160, 160), (5760, 5760), (8192, 8202), (8232, 8233),
   (8239, 8239), (8287, 8287), (12288, 12288)]

/-- Whether the character is white space. -/
def isBlank (c : Char) : Bool := blankRanges.has c

/-- The text without the white space at its front. -/
def trimFront (cs : List Char) : List Char := cs.dropWhile isBlank

/-- The text without the white space at both ends. -/
def trim (cs : List Char) : List Char := (trimFront (trimFront cs).reverse).reverse

end StagedRecords.Text
