import DoubleEntry.Address.Basic

/-!
# Address patterns

A pattern that ends in a colon stands for all addresses that begin as it does. A
pattern with an empty segment has holes, one for each empty segment, and stands
for all addresses with any one segment in each hole. Any other pattern stands for
one address. Sigils do not count.
-/

namespace DoubleEntry

namespace Pattern

/-- Whether a pattern has a hole between two colons. -/
def hasHole (pattern : Text) : Bool := Text.occursIn "::" (Address.bare pattern)

/-- Whether a pattern stands for all addresses with one beginning. -/
def isOpen (pattern : Text) : Bool := (Address.bare pattern).getLast? = some (.char ':')

/-- Whether a pattern can stand for more than one address. -/
def isWildcard (pattern : Text) : Bool := isOpen pattern || hasHole pattern

/-- Whether the segments of an address fill the segments of a pattern, an empty one
being a hole. -/
def fills : List Text → List Text → Bool
  | [], [] => true
  | expected :: pattern, actual :: address =>
    (expected.isEmpty || expected = actual) && fills pattern address
  | _, _ => false

/-- Whether an address is among those that a pattern stands for. -/
def accepts (pattern address : Text) : Bool :=
  let p := Address.bare pattern
  let a := Address.bare address
  if isOpen pattern then p.dropLast.isPrefixOf a
  else if hasHole pattern then fills (Text.pieces ':' p) (Text.pieces ':' a)
  else a = p

end Pattern

end DoubleEntry
