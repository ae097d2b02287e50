import Provision.Text.Digits
import Provision.Text.Split

/-!
# Ranges of code points

A class of characters is a table of ranges. A long table is written as a text: code points and ranges
of them in hexadecimal digits, with blanks between.
-/

namespace Provision.Text

abbrev Ranges := Array (Nat × Nat)

def inRanges (ranges : Ranges) (code : Nat) : Bool :=
  ranges.any fun range => range.1 ≤ code && code ≤ range.2

def words (written : String) : List (List Char) :=
  (splitOn '\n' written.toList).flatMap fun line => (splitOn ' ' line).filter (· ≠ [])

/-- The range that a word stands for: from its first to its last code point, or a single one. -/
def rangeOf (word : List Char) : Nat × Nat :=
  let ends := splitOn '-' word
  (numberOf 16 (ends.headD []), numberOf 16 (ends.getLastD []))

def rangesOf (written : String) : Ranges :=
  ((words written).map rangeOf).toArray

end Provision.Text
