import DoubleEntry.Number.Integer

/-!
# Ratios in texts

A ratio is written as `N/D`, or as a decimal number with an optional exponent.
Digits may be grouped by single underscores, a sign may stand in front and
blanks around the whole. The denominator is never zero.
-/

namespace DoubleEntry

/-- A fraction with a positive denominator, not necessarily in lowest terms. -/
structure Ratio where
  numerator : Int
  denominator : Nat
  denominator_pos : 0 < denominator
  deriving DecidableEq

namespace Ratio

/-- The ratio of two numbers, if the second is not zero. -/
def make? (numerator : Int) (denominator : Nat) : Option Ratio :=
  if h : 0 < denominator then some ⟨numerator, denominator, h⟩ else none

/-- The whole part of `total` times the ratio, rounded down. -/
def floorOf (share : Ratio) (total : Int) : Int :=
  (total * share.numerator) / share.denominator

/-- The hundredth part of a ratio. -/
def percent (share : Ratio) : Ratio :=
  ⟨share.numerator, share.denominator * 100,
    Nat.mul_pos share.denominator_pos (by decide)⟩

/-- The value of a row of grouped digits that keeps to the limit. -/
def row? (row : Text) : Option Nat :=
  let digits := ungrouped row
  if row.all isGroupedDigit && isGrouping row && digits.length ≤ Decimal.digitLimit then
    some (Decimal.value digits)
  else none

/-- As `row?`, with zero for the empty row. -/
def rowOrZero? (row : Text) : Option Nat :=
  if row.isEmpty then some 0 else row? row

/-- The power of ten after an exponent mark, or zero without one. -/
def exponent? : Text → Option Int
  | [] => some 0
  | mark :: rest =>
    if mark = 'e' || mark = 'E' then
      let (negative, row) := splitSign rest
      (row? row).map fun n => if negative then -(n : Int) else (n : Int)
    else none

/-- Read the part after the sign: a row of digits, then a denominator, or a
fraction and an exponent. -/
def unsigned? (t : Text) : Option (Nat × Nat) :=
  let whole := t.takeWhile isGroupedDigit
  match t.dropWhile isGroupedDigit with
  | .char '/' :: denominator => do
    let n ← row? whole
    let d ← row? denominator
    return (n, d)
  | .char '.' :: rest => do
    let fraction := rest.takeWhile isGroupedDigit
    if whole.isEmpty && fraction.isEmpty then none
    let n ← rowOrZero? whole
    let f ← rowOrZero? fraction
    let e ← exponent? (rest.dropWhile isGroupedDigit)
    let scale := Nat.pow 10 (ungrouped fraction).length
    return ((n * scale + f) * Nat.pow 10 e.toNat, scale * Nat.pow 10 (-e).toNat)
  | rest => do
    let n ← row? whole
    let e ← exponent? rest
    return (n * Nat.pow 10 e.toNat, Nat.pow 10 (-e).toNat)

/-- Read a ratio. -/
def ofText? (t : Text) : Option Ratio := do
  let (negative, body) := splitSign t.strip
  let (n, d) ← unsigned? body
  make? (if negative then -(n : Int) else (n : Int)) d

end Ratio

end DoubleEntry
