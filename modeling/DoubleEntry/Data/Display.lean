import DoubleEntry.Data.Basic
import DoubleEntry.Text.Quoted

/-!
# Data values in messages

A value inside a message is written with its texts in quotes. A text on its own is
written as it is.
-/

namespace DoubleEntry

namespace Data

/-- The written form of a double in a message. -/
def doubleText (x : Double) : Text := x.text "inf" "nan"

mutual

/-- A value with all texts in quotes. -/
def quoted : Data → Text
  | .null => "None"
  | .bool true => "True"
  | .bool false => "False"
  | .int value => Decimal.ofInt value
  | .double value => doubleText value
  | .text value => value.quoted
  | .list items => (quotedItems items).enclosed '[' ']'
  | .object fields => (quotedFields fields).enclosed '{' '}'

/-- The items of a list, with commas between them. -/
def quotedItems : List Data → Text
  | [] => []
  | [item] => quoted item
  | item :: next :: rest => quoted item ++ ", " ++ quotedItems (next :: rest)

/-- The fields of an object, with commas between them. -/
def quotedFields : List (Text × Data) → Text
  | [] => []
  | [(key, value)] => key.quoted ++ ": " ++ quoted value
  | (key, value) :: next :: rest =>
    key.quoted ++ ": " ++ quoted value ++ ", " ++ quotedFields (next :: rest)

end

/-- A value as it stands in running text. -/
def shown : Data → Text
  | .text value => value
  | value => quoted value

mutual

/-- The whole numbers that stand in a value. They are written out with it. -/
def numbers : Data → List Int
  | .int value => [value]
  | .list items => numbersOfItems items
  | .object fields => numbersOfFields fields
  | .null | .bool _ | .double _ | .text _ => []

/-- The whole numbers in the items of a list. -/
def numbersOfItems : List Data → List Int
  | [] => []
  | item :: rest => numbers item ++ numbersOfItems rest

/-- The whole numbers in the fields of an object. -/
def numbersOfFields : List (Text × Data) → List Int
  | [] => []
  | (_, value) :: rest => numbers value ++ numbersOfFields rest

end

/-- The name of the kind of a value. -/
def kindName : Data → Text
  | .null => "NoneType"
  | .bool _ => "bool"
  | .int _ => "int"
  | .double _ => "float"
  | .text _ => "str"
  | .list _ => "list"
  | .object _ => "dict"

end Data

end DoubleEntry
