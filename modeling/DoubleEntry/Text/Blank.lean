import DoubleEntry.Text.Basic
import DoubleEntry.Text.RangeTable

/-!
# Blank characters

Spaces, tabs, line ends, the four information separators and the wider spaces
of other scripts. Zero-width characters are not blank.
-/

namespace DoubleEntry

/-- The ranges of blank characters. -/
def blankTable : RangeTable :=
  [(0x0009, 0x000D), (0x001C, 0x0020), (0x0085, 0x0085), (0x00A0, 0x00A0), (0x1680, 0x1680),
   (0x2000, 0x200A), (0x2028, 0x2029), (0x202F, 0x202F), (0x205F, 0x205F), (0x3000, 0x3000)]

/-- Whether a character separates words. -/
def isBlank (c : CodePoint) : Bool := blankTable.contains c.toNat

/-- Every blank of the core library is blank here. -/
theorem isBlank_of_isWhitespace {c : Char} (h : c.isWhitespace = true) : isBlank c = true := by
  simp only [Char.isWhitespace, Bool.or_eq_true, decide_eq_true_eq] at h
  rcases h with ((rfl | rfl) | rfl) | rfl <;> decide

namespace Text

/-- A text without the blanks at its two ends. -/
def strip (t : Text) : Text :=
  ((t.dropWhile isBlank).reverse.dropWhile isBlank).reverse

end Text

end DoubleEntry
