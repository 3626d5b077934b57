import DoubleEntry.Number.Decimal

/-!
# Double-precision numbers

A number of the binary64 format is a sign and a 53-bit mantissa times a power of
two, or an infinity, or no number at all. Reading rounds a decimal to the nearest
such number, a tie to the even mantissa. Writing takes the fewest digits that
read back, and of those the digits nearest to the number.
-/

namespace DoubleEntry

/-- A number of the binary64 format. A finite one is `mantissa * 2 ^ exponent`,
with a mantissa of 53 bits unless the exponent is the least one. -/
inductive Double where
  | finite (negative : Bool) (mantissa : Nat) (exponent : Int)
  | infinite (negative : Bool)
  | notANumber
  deriving DecidableEq

namespace Double

/-- The least exponent. -/
def leastExponent : Int := -1074

/-- The greatest exponent. -/
def greatestExponent : Int := 971

/-- The greatest power of ten that is a finite number. -/
def greatestDecimalPlace : Nat := 308

/-- The quotient of two natural numbers, to the nearest, a tie to even. -/
def roundDiv (n d : Nat) : Nat :=
  let q := n / d
  let twice := 2 * (n % d)
  if twice < d then q else if twice = d then q + q % 2 else q + 1

/-- `n * 2 ^ e` as a fraction. -/
def binaryScale (n : Nat) (e : Int) : Nat × Nat := (n * Nat.pow 2 e.toNat, Nat.pow 2 (-e).toNat)

/-- `n * 10 ^ e` as a fraction. -/
def decimalScale (n : Nat) (e : Int) : Nat × Nat := (n * Nat.pow 10 e.toNat, Nat.pow 10 (-e).toNat)

/-- The exponent at which a positive fraction has a 53-bit whole part. -/
def exponentFor (n d : Nat) : Int :=
  let guess : Int := (Nat.log2 n : Int) - (Nat.log2 d : Int) - 52
  let (_, shift) := binaryScale 1 guess
  let (lift, _) := binaryScale 1 guess
  let e := if n * shift < Nat.pow 2 52 * (d * lift) then guess - 1 else guess
  max e leastExponent

/-- The nearest number to a fraction with a positive denominator. -/
def ofFraction (negative : Bool) (n d : Nat) : Double :=
  if n = 0 then .finite negative 0 leastExponent
  else
    let e := exponentFor n d
    let m := roundDiv (n * Nat.pow 2 (-e).toNat) (d * Nat.pow 2 e.toNat)
    let (m, e) := if m = Nat.pow 2 53 then (Nat.pow 2 52, e + 1) else (m, e)
    if greatestExponent < e then .infinite negative else .finite negative m e

/-- The nearest number to `digits * 10 ^ exponent`. Powers of ten far outside the
format are not computed. -/
def ofDecimal (negative : Bool) (digits : Nat) (exponent : Int) : Double :=
  let size : Int := (Decimal.ofNat digits).length + exponent
  if digits = 0 || size < -400 then .finite negative 0 leastExponent
  else if 400 < size then .infinite negative
  else
    let (n, d) := decimalScale digits exponent
    ofFraction negative n d

/-- Whether the number is zero, of either sign. -/
def isZero : Double → Bool
  | .finite _ 0 _ => true
  | _ => false

/-- A finite number as a fraction. -/
def fraction? : Double → Option (Int × Nat)
  | .finite negative m e =>
    let (n, d) := binaryScale m e
    some (if negative then -(n : Int) else (n : Int), d)
  | _ => none

/-- The whole part of a finite number, rounded toward zero. -/
def truncate? (x : Double) : Option Int := x.fraction?.map fun (n, d) => n.tdiv d

/-! ## The shortest digits -/

/-- The place of the leading digit of a positive fraction: the greatest `k` with
`10 ^ k ≤ n / d`. -/
def leadingPlace (n d : Nat) : Int :=
  if d ≤ n then ((Decimal.ofNat (n / d)).length : Int) - 1
  else
    let guess : Nat := (Decimal.ofNat ((d + n - 1) / n)).length - 1
    if n * Nat.pow 10 guess < d then -((guess : Int) + 1) else -(guess : Int)

/-- The fraction rounds to the double with mantissa `m` and exponent `e`: it lies
within half a step, the ends counting when the mantissa is even. Below a power of
two the step is half as wide. -/
def roundsTo (m : Nat) (e : Int) (n d : Nat) : Bool :=
  let below := if m = Nat.pow 2 52 && leastExponent < e then 1 else 2
  -- both sides in quarters of a step
  let point := 4 * n * Nat.pow 2 (-e).toNat
  let unit := d * Nat.pow 2 e.toNat
  let low := (4 * m - below) * unit
  let high := (4 * m + 2) * unit
  if m % 2 = 0 then low ≤ point && point ≤ high else low < point && point < high

/-- The neighbour of the number on the grid of step `10 ^ place` that reads back,
the nearer one if both do. -/
def onGrid? (m : Nat) (e : Int) (place : Int) : Option Nat :=
  let (n, d) := binaryScale m e
  let (step, divisor) := decimalScale 1 place
  let top := n * divisor
  let bottom := d * step
  let down := top / bottom
  let back (k : Nat) : Bool := 0 < k && roundsTo m e (k * step) divisor
  match back down, back (down + 1) with
  | true, true => some (roundDiv top bottom)
  | true, false => some down
  | false, true => some (down + 1)
  | false, false => none

/-- The first grid, from coarse to fine, with a point that reads back. -/
def shortestFrom (m : Nat) (e : Int) (leading : Int) : Nat → Nat → Nat × Int
  | 0, digits => (m, leading - digits + 1)
  | fuel + 1, digits =>
    let place := leading - digits + 1
    match onGrid? m e place with
    | some k => (k, place)
    | none => shortestFrom m e leading fuel (digits + 1)

/-- The digits and the place of the last digit of the shortest decimal that reads
back as a positive number. Seventeen digits are always enough. -/
def shortest (m : Nat) (e : Int) : Nat × Int :=
  let (n, d) := binaryScale m e
  shortestFrom m e (leadingPlace n d) 17 1

/-! ## Writing -/

/-- A digit string without the zeros at its end. -/
def dropTrailingZeros (digits : Text) : Text :=
  (digits.reverse.dropWhile fun c : CodePoint => c = '0').reverse

/-- A power of ten with a sign and at least two digits. -/
def exponentText (e : Int) : Text :=
  (if e < 0 then "-" else "+" : Text) ++ Decimal.zeroPadded 2 e.natAbs

/-- A decimal with `digits` and leading place `leading`: positional from 10⁻⁴ up
to below 10¹⁶, always with a point; else with an exponent. -/
def decimalText (digits : Text) (leading : Int) : Text :=
  if -4 ≤ leading && leading < 16 then
    if leading < 0 then
      "0." ++ Decimal.zeros ((-leading).toNat - 1) ++ digits
    else
      let whole := leading.toNat + 1
      let padded := digits ++ Decimal.zeros (whole - digits.length)
      let fraction := padded.drop whole
      padded.take whole ++ "." ++ (if fraction.isEmpty then "0" else fraction : Text)
  else
    match digits with
    | [] => []
    | first :: rest =>
      first :: ((if rest.isEmpty then [] else '.' :: rest : Text) ++ "e" ++ exponentText leading)

/-- The written form of a double with given words for the infinity and for no
number. -/
def text (infinity nan : Text) : Double → Text
  | .finite negative m e =>
    let sign : Text := if negative then ['-'] else []
    if m = 0 then sign ++ "0.0"
    else
      let (k, place) := shortest m e
      let digits := Decimal.ofNat k
      sign ++ decimalText (dropTrailingZeros digits) (place + digits.length - 1)
  | .infinite negative => (if negative then "-" else [] : Text) ++ infinity
  | .notANumber => nan

end Double

end DoubleEntry
