import DoubleEntry.Data.Access
import DoubleEntry.Data.Sameness

/-!
# Metadata

What is noted under keys, in the order in which the keys were first written. A key can
be any value without parts. Keys that are the same are one key, which keeps its first
spelling and takes the new value.
-/

namespace DoubleEntry

/-- Noted values under keys. -/
abbrev Metadata := List (Data × Data)

namespace Metadata

/-- The value under a key, if there is one. -/
def get? : Metadata → Data → Option Data
  | [], _ => none
  | (k, v) :: rest, key => if k.sameKey key then some v else get? rest key

/-- Note a value under a key. -/
def put : Metadata → Data → Data → Metadata
  | [], key, value => [(key, value)]
  | (k, v) :: rest, key, value =>
    if k.sameKey key then (k, value) :: rest else (k, v) :: put rest key value

/-- The metadata that pairs make when they are noted one after the other. -/
def ofPairs (pairs : List (Data × Data)) : Metadata :=
  pairs.foldl (fun metadata p => put metadata p.1 p.2) []

/-- The two parts of an item of a list of pairs. -/
def pair (index : Nat) (item : Data) : Except Fault (Data × Data) := do
  let parts ← item.elements
  match parts with
  | [key, value] => return (← key.asKey, value)
  | _ => throw (.notAPair index parts.length)

/-- The items of a list of pairs, counted from a given place. -/
def pairsFrom (index : Nat) : List Data → Except Fault (List (Data × Data))
  | [] => .ok []
  | item :: rest => do
    let p ← pair index item
    return p :: (← pairsFrom (index + 1) rest)

/-- The metadata that an object or a list of pairs stands for. -/
def ofData (value : Data) : Except Fault Metadata :=
  match value with
  | .object fields => .ok (fields.map fun (key, v) => (.text key, v))
  | other => do return ofPairs (← pairsFrom 0 (← other.sequence))

/-- Whether everything that is asked for is noted. A key under which nothing is noted
answers null. -/
def answers (noted asked : Metadata) : Bool :=
  asked.all fun (key, value) => ((noted.get? key).getD .null).same value

theorem get?_put_self (metadata : Metadata) (key value : Data) :
    get? (put metadata key value) key = some value := by
  induction metadata with
  | nil => simp [put, get?, Data.sameKey]
  | cons entry rest ih =>
    obtain ⟨k, v⟩ := entry
    by_cases h : k.sameKey key
    · simp [put, get?, h]
    · simp [put, get?, h, ih]

end Metadata

end DoubleEntry
