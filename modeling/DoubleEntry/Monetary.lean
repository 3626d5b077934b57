import DoubleEntry.Fault
import DoubleEntry.Text.Reader

/-!
# Monetary literals

A monetary literal `[ASSET AMOUNT]` names an asset and a natural number of its
smallest units; `[ASSET *]` asks for everything there is.
-/

namespace DoubleEntry

/-- How much of an asset a literal asks for. -/
inductive Quantity where
  | exactly (amount : Nat)
  | everything
  deriving DecidableEq

/-- An asset and how much of it. -/
structure Monetary where
  asset : Text
  quantity : Quantity
  deriving DecidableEq

namespace Quantity

/-- The text of a quantity, however long it is. -/
def text : Quantity → Text
  | .exactly amount => Decimal.ofNat amount
  | .everything => "*"

/-- The numbers in the text of a quantity. -/
def numbers : Quantity → List Int
  | .exactly amount => [amount]
  | .everything => []

end Quantity

namespace Monetary

/-- The text of a literal, however long its amount is. -/
def text (m : Monetary) : Text :=
  Text.enclosed '[' ']' (m.asset ++ " " ++ m.quantity.text)

/-- A literal in writing. -/
def written (m : Monetary) : Except Fault Text := Decimal.writing m.quantity.numbers m.text

/-- Whether a character can stand in the asset of a literal. -/
def isAssetChar (c : CodePoint) : Bool := !isBlank c && c ≠ ']'

/-- The parts of a literal: the asset, and the digits of the amount unless everything
is asked for. -/
def literal : Reader (Text × Option Text) := do
  let _ ← Reader.char (· = '[')
  let asset ← Reader.many1 isAssetChar
  Reader.gap
  let amount ← some <$> Reader.many1 isDecimalDigit <|>
    (do Reader.word "*"; return none)
  let _ ← Reader.char (· = ']')
  return (asset, amount)

/-- The monetary value of the parts of a literal. -/
def ofParts (asset : Text) : Option Text → Except Fault Monetary
  | none => .ok ⟨asset, .everything⟩
  | some digits =>
    if digits.length ≤ Decimal.digitLimit then .ok ⟨asset, .exactly (Decimal.value digits)⟩
    else .error (.amountTooLong asset digits.length)

/-- Read the first literal in a text. -/
def ofText (t : Text) : Except Fault Monetary :=
  match Search.first? Search.anywhere literal t with
  | some found => ofParts found.value.1 found.value.2
  | none => .error (.noLiteral t)

end Monetary

end DoubleEntry
