import DoubleEntry.Execution.Overlay
import DoubleEntry.Script.Destination
import DoubleEntry.Script.Portion

/-!
# Splitting among destinations

An amount is split among the destinations in the order in which they stand. A
portion is taken of the whole amount and rounded down. The last destination, and one
without a portion of its own, takes what is left.
-/

namespace DoubleEntry

/-- What one account is to get. -/
structure Allocation where
  account : Text
  amount : Int
  deriving DecidableEq

namespace Destination

/-- The references and portions of the destinations that are not kept. -/
def live (destinations : List Destination) : List (Text × Option Text) :=
  destinations.filterMap fun destination =>
    match destination.receiver with
    | .account reference => some (reference, destination.portion)
    | .kept => none

/-- The portion that counts: neither an empty text nor the word for what remains, and
not on the last destination. -/
def ownPortion? (isLast : Bool) : Option Text → Option Text
  | none => none
  | some portion =>
    if isLast || portion.isEmpty || portion = Script.remainingWord then none else some portion

/-- Split what is left of a total. -/
def splitLeft (vars : Variables) (total : Int) :
    Int → List (Text × Option Text) → Except Fault (List Allocation)
  | _, [] => .ok []
  | left, (reference, portion) :: rest => do
    let account ← Script.resolve vars reference
    let amount ← match ownPortion? rest.isEmpty portion with
      | some portion => Portion.amountOf portion total
      | none => pure left
    if left < amount then throw (.portionsExceed total (amount - left))
    let others ← splitLeft vars total (left - amount) rest
    return { account, amount } :: others

/-- Split a total. It is refused if the portions add up to more. -/
def split (vars : Variables) (total : Int) (destinations : List Destination) :
    Except Fault (List Allocation) :=
  splitLeft vars total total (live destinations)

/-- A destination with an account and a portion of any kind. A portion that is no text
does not count on the last destination. -/
def ofData (bound isLast : Bool) (account portion : Data) : Except Fault Destination := do
  let account ← account.textOr (if bound then .wrongKind else .noFields)
  if portion.isPresent && portion.asText?.isNone && !isLast then throw .noFields
  return { receiver := .account account, portion := portion.asText? }

/-- The destinations with given accounts and portions. -/
def allOfData (bound : Bool) : List (Data × Data) → Except Fault (List Destination)
  | [] => .ok []
  | (account, portion) :: rest => do
    let destination ← ofData bound rest.isEmpty account portion
    return destination :: (← allOfData bound rest)

/-- As `split`, for values of any kind. Each destination is an account, a portion and
whether it is kept. Variables and total are looked at only if one is not. -/
def splitOfData (vars total : Data) (destinations : List (Data × Data × Data)) :
    Except Fault (List Allocation) := do
  let live := destinations.filterMap fun (account, portion, kept) =>
    if kept.isPresent then none else some (account, portion)
  if live.isEmpty then return []
  let vars ← Variables.ofData vars
  let bindings ← vars.bind
  let destinations ← allOfData (!bindings.isEmpty) live
  split vars (← total.whole) destinations

end Destination

end DoubleEntry
