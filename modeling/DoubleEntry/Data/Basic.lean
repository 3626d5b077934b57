import DoubleEntry.Entries
import DoubleEntry.Number.Double

/-!
# Data values

The values of configurations and variables: null, truth values, numbers, texts,
lists and objects. An object keeps the order of its keys.
-/

namespace DoubleEntry

/-- A value of the data format. -/
inductive Data where
  | null
  | bool (value : Bool)
  | int (value : Int)
  | double (value : Double)
  | text (value : Text)
  | list (items : List Data)
  | object (fields : List (Text × Data))

namespace Data

instance : Inhabited Data := ⟨.null⟩

/-- Whether a value counts as present: null, false, zero and whatever is empty do
not. -/
def isPresent : Data → Bool
  | .null => false
  | .bool value => value
  | .int value => value ≠ 0
  | .double value => !value.isZero
  | .text value => !value.isEmpty
  | .list items => !items.isEmpty
  | .object fields => !fields.isEmpty

/-- The text that a value is, if it is one. -/
def asText? : Data → Option Text
  | .text value => some value
  | _ => none

/-- Whether a value has no parts. Only such a value can stand as a key. -/
def isScalar : Data → Bool
  | .list _ | .object _ => false
  | _ => true

mutual

/-- Whether two values are equal in every part and in the order of keys. -/
def decEq : (a b : Data) → Decidable (a = b)
  | .null, .null => isTrue rfl
  | .bool a, .bool b => decidable_of_iff (a = b) (by simp)
  | .int a, .int b => decidable_of_iff (a = b) (by simp)
  | .double a, .double b => decidable_of_iff (a = b) (by simp)
  | .text a, .text b => decidable_of_iff (a = b) (by simp)
  | .list a, .list b =>
    have := decEqItems a b
    decidable_of_iff (a = b) (by simp)
  | .object a, .object b =>
    have := decEqFields a b
    decidable_of_iff (a = b) (by simp)
  | .null, .bool _ | .null, .int _ | .null, .double _ | .null, .text _ | .null, .list _
  | .null, .object _ | .bool _, .null | .bool _, .int _ | .bool _, .double _
  | .bool _, .text _ | .bool _, .list _ | .bool _, .object _ | .int _, .null
  | .int _, .bool _ | .int _, .double _ | .int _, .text _ | .int _, .list _
  | .int _, .object _ | .double _, .null | .double _, .bool _ | .double _, .int _
  | .double _, .text _ | .double _, .list _ | .double _, .object _ | .text _, .null
  | .text _, .bool _ | .text _, .int _ | .text _, .double _ | .text _, .list _
  | .text _, .object _ | .list _, .null | .list _, .bool _ | .list _, .int _
  | .list _, .double _ | .list _, .text _ | .list _, .object _ | .object _, .null
  | .object _, .bool _ | .object _, .int _ | .object _, .double _ | .object _, .text _
  | .object _, .list _ => isFalse (by simp)

/-- As `decEq`, for the items of lists. -/
def decEqItems : (a b : List Data) → Decidable (a = b)
  | [], [] => isTrue rfl
  | [], _ :: _ | _ :: _, [] => isFalse (by simp)
  | x :: a, y :: b =>
    have := decEq x y
    have := decEqItems a b
    decidable_of_iff (x = y ∧ a = b) (by simp)

/-- As `decEq`, for the fields of objects. -/
def decEqFields : (a b : List (Text × Data)) → Decidable (a = b)
  | [], [] => isTrue rfl
  | [], _ :: _ | _ :: _, [] => isFalse (by simp)
  | (k, x) :: a, (l, y) :: b =>
    have := decEq x y
    have := decEqFields a b
    decidable_of_iff (k = l ∧ x = y ∧ a = b) (by simp [and_assoc])

end

instance : DecidableEq Data := decEq

end Data

end DoubleEntry
