import DoubleEntry.Number.Decimal
import DoubleEntry.Text.Blank

/-!
# Whole numbers in texts

A text holds a whole number if it is a row of digits with an optional sign in
front and blanks around it. Single underscores may group the digits.
-/

namespace DoubleEntry

/-- Whether a character can stand in a row of grouped digits. -/
def isGroupedDigit (c : CodePoint) : Bool := isDecimalDigit c || c = '_'

/-- Whether underscores stand only between digits, and at least one digit is
present. -/
def isGrouping (row : Text) : Bool := (Text.pieces '_' row).all fun group => !group.isEmpty

/-- The digits of a row without the underscores. -/
def ungrouped (row : Text) : Text := row.filter fun c => c ≠ '_'

/-- Split a leading sign off; `true` stands for minus. -/
def splitSign : Text → Bool × Text
  | .char '-' :: rest => (true, rest)
  | .char '+' :: rest => (false, rest)
  | t => (false, t)

namespace Integer

/-- Why a text holds no whole number. -/
inductive Refusal where
  | notANumeral
  | tooManyDigits (count : Nat)
  deriving DecidableEq

/-- The blanks that may surround a whole number: all but the four information
separators. -/
def isMargin (c : CodePoint) : Bool :=
  isBlank c && !(0x1C ≤ c.toNat && c.toNat ≤ 0x1F)

/-- Read a whole number. The row of digits is judged before what follows it: its
grouping first, then its length, then the rest of the text. -/
def ofText (t : Text) : Except Refusal Int :=
  let (negative, body) := splitSign (t.dropWhile isMargin)
  let row := body.takeWhile isGroupedDigit
  let rest := body.dropWhile isGroupedDigit
  let digits := ungrouped row
  if !isGrouping row then .error .notANumeral
  else if Decimal.digitLimit < digits.length then .error (.tooManyDigits digits.length)
  else if !rest.all isMargin then .error .notANumeral
  else
    let magnitude : Int := Decimal.value digits
    .ok (if negative then -magnitude else magnitude)

end Integer

end DoubleEntry
