import DoubleEntry.Data.Basic

/-!
# When values are the same

Numbers are the same by value, however they are written, and truth values count as
zero and one. Lists are the same item by item, objects key by key in any order.
What is no number is not the same as anything.
-/

namespace DoubleEntry

namespace Data

/-- The value of a finite number as a fraction; a truth value is zero or one. -/
def fraction? : Data → Option (Int × Nat)
  | .bool value => some (if value then 1 else 0, 1)
  | .int value => some (value, 1)
  | .double value => value.fraction?
  | _ => none

/-- Whether two finite numbers have one value. -/
def sameNumber (a b : Data) : Bool :=
  match a.fraction?, b.fraction? with
  | some (n, d), some (m, e) => n * e = m * d
  | _, _ => false

mutual

/-- Whether two values are the same. -/
def same : Data → Data → Bool
  | .null, .null => true
  | .text a, .text b => a = b
  | .double (.infinite a), .double (.infinite b) => a = b
  | .list a, .list b => sameItems a b
  | .object a, .object b => a.length = b.length && sameFields a b
  | a, b => sameNumber a b

/-- Whether two lists have the same items in order. -/
def sameItems : List Data → List Data → Bool
  | [], [] => true
  | a :: rest, b :: others => same a b && sameItems rest others
  | _, _ => false

/-- Whether every field of an object is there in another with the same value. -/
def sameFields : List (Text × Data) → List (Text × Data) → Bool
  | [], _ => true
  | (key, value) :: rest, others =>
    (match Entries.get? others key with
      | some other => same value other
      | none => false) && sameFields rest others

end

/-- Whether two values are one key: they are the same, or written alike. -/
def sameKey (a b : Data) : Bool := a = b || same a b

/-- Whether one number comes before another. -/
def isBelow (a b : Data) : Bool :=
  match a.fraction?, b.fraction? with
  | some (n, d), some (m, e) => n * e < m * d
  | none, some _ => a = .double (.infinite true)
  | some _, none => b = .double (.infinite false)
  | none, none => a = .double (.infinite true) && b = .double (.infinite false)

end Data

end DoubleEntry
