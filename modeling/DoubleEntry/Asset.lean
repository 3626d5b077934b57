import DoubleEntry.Data.Access

/-!
# Assets

An asset is a code with a precision, the number of decimal places that its amounts
have. `USD/2` is counted in cents; an asset without a precision is counted in whole
units.
-/

namespace DoubleEntry

/-- The parts of an asset. -/
structure Asset where
  code : Text
  precision : Nat
  deriving DecidableEq

namespace Asset

/-- The text of an asset, however long its precision is. A precision of zero is left
out. -/
def text (asset : Asset) : Text :=
  if asset.precision = 0 then asset.code
  else asset.code ++ "/" ++ Decimal.ofNat asset.precision

/-- An asset in writing. -/
def written (asset : Asset) : Except Fault Text :=
  Decimal.writing [(asset.precision : Int)] asset.text

/-- Whether a text is a row of digits that keeps to the limit. -/
def isPrecision (t : Text) : Bool :=
  !t.isEmpty && t.all isDecimalDigit && t.length ≤ Decimal.digitLimit

/-- Read an asset. Only an asset with exactly one slash has a precision; any other is
a code as a whole. -/
def ofText (t : Text) : Except Fault Asset :=
  match Text.pieces '/' t with
  | [code, precision] =>
    if isPrecision precision then .ok ⟨code, Decimal.value precision⟩
    else .error (.badPrecision t)
  | _ => .ok ⟨t, 0⟩

/-- What amounts of an asset are shown with in front: a sign for the best-known
currencies, the code and a blank for the others. -/
def symbol (code : Text) : Text :=
  if code = "USD" then "$"
  else if code = "EUR" then "€"
  else if code = "GBP" then "£"
  else if code = "BRL" then "R$"
  else code ++ " "

/-- An amount of an asset as people read it: with its decimal places behind a point
if the asset has any, else as a whole number before the code. -/
def formatAmount (amount : Int) (asset : Text) : Except Fault Text := do
  let parsed ← ofText asset
  let whole := amount.natAbs / Nat.pow 10 parsed.precision
  let fraction := amount.natAbs % Nat.pow 10 parsed.precision
  if !Decimal.fits whole || !Decimal.fits fraction then throw .unwritable
  if parsed.precision = 0 then
    return Decimal.ofInt amount ++ " " ++ parsed.code
  return (if amount < 0 then "-" else [] : Text) ++ symbol parsed.code ++ Decimal.ofNat whole ++
    "." ++ Decimal.zeroPadded parsed.precision fraction

/-- As `formatAmount`, for an amount of any kind. Only a number can be divided into
decimal places, and of numbers only a whole one can be written with them; without
decimal places any value is shown before the code. -/
def formatData (amount : Data) (asset : Text) : Except Fault Text := do
  if let .int n := amount then return ← formatAmount n asset
  let parsed ← ofText asset
  if parsed.precision = 0 then return (← amount.written) ++ " " ++ parsed.code
  if let .double _ := amount then
    throw (if Double.greatestDecimalPlace < parsed.precision then .beyondDouble
      else .fractionalAmount)
  formatAmount (← amount.whole) asset

end Asset

end DoubleEntry
