import DoubleEntry.Text.Reader
import DoubleEntry.Text.DecimalDigit
import DoubleEntry.Text.Word

/-!
# References and portions in scripts

An account is referred to by its address, in which placeholders in braces may
stand, or by a variable. A share of an amount is a percentage, a fraction or the
word for what remains.
-/

namespace DoubleEntry

namespace Script

/-- Whether a character can stand in an address behind the sigil. -/
def isAddressChar (c : CodePoint) : Bool :=
  isWordChar c || c = ':' || c = '{' || c = '}' || c = '-'

/-- An address with its sigil. -/
def address : Reader Text := do
  let sigil ← Reader.char (· = '@')
  let name ← Reader.many1 isAddressChar
  return sigil :: name

/-- A variable with its dollar sign. -/
def variableRef : Reader Text := do
  let dollar ← Reader.char (· = '$')
  let name ← Reader.many1 isWordChar
  return dollar :: name

/-- A reference to an account. -/
def accountRef : Reader Text := address <|> variableRef

/-- The word for the share that takes what the others leave. -/
def remainingWord : Text := "remaining"

/-- A percentage: digits and points with a percent sign behind. -/
def percentage : Reader Text := do
  let number ← Reader.many1 fun c => isDecimalDigit c || c = '.'
  let _ ← Reader.char (· = '%')
  return number ++ "%"

/-- A fraction of two rows of digits. -/
def fraction : Reader Text := do
  let numerator ← Reader.many1 isDecimalDigit
  let _ ← Reader.char (· = '/')
  let denominator ← Reader.many1 isDecimalDigit
  return numerator ++ "/" ++ denominator

/-- A share of an amount. -/
def portion : Reader Text :=
  percentage <|> fraction <|> (do Reader.word remainingWord; return remainingWord)

/-- A name, an equals sign and blanks around it. -/
def clauseHead (name : Text) : Reader Unit := do
  Reader.word name
  Reader.blanks
  let _ ← Reader.char (· = '=')
  Reader.blanks

/-- Everything from an opening brace to the next closing one. -/
def braceBlock : Reader Text := do
  let inner ← Reader.enclosed '{' '}'
  return inner.enclosed '{' '}'

/-- Everything between two square brackets, at least one character. -/
def bracketed : Reader Text := Reader.enclosed1 '[' ']'

/-- The text inside a block, the delimiters being taken off unseen. -/
def blockBody (t : Text) : Text := (t.drop 1).dropLast

end Script

end DoubleEntry
