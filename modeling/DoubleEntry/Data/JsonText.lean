import DoubleEntry.Data.Basic
import DoubleEntry.Text.Quoted

/-!
# Writing JSON

The compact written form of a value: no blanks, and only those characters escaped
that must be.
-/

namespace DoubleEntry

namespace Json

/-- A number in an escape. -/
def numbered (n : Nat) : Text := "\\u" ++ Quoted.hex 4 n

/-- One character of a string. -/
def escape : CodePoint → Text
  | .char c =>
    if c = '"' then ['\\', '"']
    else if c = '\\' then ['\\', '\\']
    else if c.toNat < 0x20 then numbered c.toNat
    else [c]
  | .half place => numbered (CodePoint.half place).toNat

/-- A string in its quotes. -/
def stringText (t : Text) : Text := Text.enclosed '"' '"' (t.flatMap escape)

mutual

/-- A value in writing. -/
def text : Data → Text
  | .null => "null"
  | .bool true => "true"
  | .bool false => "false"
  | .int n => Decimal.ofInt n
  | .double x => x.text "Infinity" "NaN"
  | .text t => stringText t
  | .list items => (itemsText items).enclosed '[' ']'
  | .object fields => (fieldsText fields).enclosed '{' '}'

/-- The items of a list with commas between them. -/
def itemsText : List Data → Text
  | [] => []
  | [item] => text item
  | item :: next :: rest => text item ++ "," ++ itemsText (next :: rest)

/-- The fields of an object with commas between them. -/
def fieldsText : List (Text × Data) → Text
  | [] => []
  | [(key, value)] => stringText key ++ ":" ++ text value
  | (key, value) :: next :: rest =>
    stringText key ++ ":" ++ text value ++ "," ++ fieldsText (next :: rest)

end

end Json

end DoubleEntry
