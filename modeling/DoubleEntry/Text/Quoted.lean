import DoubleEntry.Text.Basic
import DoubleEntry.Text.Unprintable

/-!
# Quoted texts

A text between single quotes, or between double quotes if it holds a single one
and no double one. The quote in use and the backslash are escaped, tabs and line
ends have short escapes, and characters without a visible form are written by
number.
-/

namespace DoubleEntry

namespace Quoted

/-- A number in lower hexadecimal digits, at least `width` of them. -/
def hex (width n : Nat) : Text :=
  let digits := (Nat.toDigits 16 n).map CodePoint.char
  List.replicate (width - digits.length) (.char '0') ++ digits

/-- A code point by number, with two, four or eight digits. -/
def byNumber (c : CodePoint) : Text :=
  let n := c.toNat
  if n ≤ 0xFF then '\\' :: 'x' :: hex 2 n
  else if n ≤ 0xFFFF then '\\' :: 'u' :: hex 4 n
  else '\\' :: 'U' :: hex 8 n

/-- One code point between the quotes. -/
def escape (quote c : CodePoint) : Text :=
  if c = quote || c = '\\' then ['\\', c]
  else if c = '\t' then ['\\', 't']
  else if c = '\n' then ['\\', 'n']
  else if c = '\r' then ['\\', 'r']
  else if isPrintable c then [c]
  else byNumber c

/-- The quote that a text is put in. -/
def quoteFor (t : Text) : CodePoint :=
  if t.contains '\'' && !t.contains '"' then '"' else '\''

end Quoted

/-- A text in quotes. -/
def Text.quoted (t : Text) : Text :=
  let quote := Quoted.quoteFor t
  Text.enclosed quote quote (t.flatMap (Quoted.escape quote))

end DoubleEntry
