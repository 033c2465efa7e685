import TextGrammar.Text.CodePoint
import TextGrammar.Text.Ranges

/-!
Blanks: the code points of general category Zs or of bidirectional class WS, B
or S in Unicode 14.0. The separators U+001C to U+001F are among them; around a
numeral they are not skipped.
-/

namespace TextGrammar

def blankRanges : Ranges :=
  [(9, 13), (28, 32), (133, 133), (160, 160), (5760, 5760), (8192, 8202), (8232, 8233),
   (8239, 8239), (8287, 8287), (12288, 12288)]

theorem blank_ranges_increase : blankRanges.isIncreasing := by decide

namespace CodePoint

def isBlank (point : CodePoint) : Bool := blankRanges.contains point.toNat

/-- What may surround a numeral: every blank but the four information separators. -/
def isNumeralMargin (point : CodePoint) : Bool :=
  point.isBlank && !(28 ≤ point.toNat && point.toNat ≤ 31)

end CodePoint

end TextGrammar
