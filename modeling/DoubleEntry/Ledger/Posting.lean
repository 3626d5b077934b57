import DoubleEntry.Address.Basic
import DoubleEntry.Fault
import DoubleEntry.Text.Blank

/-!
# Postings

A posting moves a natural number of units of one asset from a source account to a
destination account. Neither account nor the asset is blank.
-/

namespace DoubleEntry

/-- A movement of one asset from one account to another. -/
structure Posting where
  source : Text
  destination : Text
  asset : Text
  amount : Nat
  deriving DecidableEq

namespace Posting

/-- A text that is not blank; nothing at all counts as a blank text. -/
def nonblank (missing : Fault) (value : Data) : Except Fault Text :=
  if !value.isPresent then .error missing
  else match value with
    | .text t => if t.all isBlank then .error missing else .ok t
    | _ => .error .noFields

/-- The posting with given parts. They are checked in the order in which they
stand. -/
def ofData (source destination asset amount : Data) : Except Fault Posting := do
  let source ← nonblank .emptySource source
  let destination ← nonblank .emptyDestination destination
  let asset ← nonblank .emptyAsset asset
  match amount with
  | .int (.ofNat amount) => return { source, destination, asset, amount }
  | .int amount => throw (.negativeAmount amount)
  | other => throw (.amountNotWhole other)

/-- The posting of an amount that may turn out not to be postable. -/
def make (source destination asset : Text) (amount : Int) : Except Fault Posting :=
  ofData (.text source) (.text destination) (.text asset) (.int amount)

/-- The posting with both addresses in full spelling. -/
def normalize (p : Posting) : Posting :=
  { p with
    source := Address.normalize p.source
    destination := Address.normalize p.destination }

/-- A posting on one line. -/
def written (p : Posting) : Except Fault Text := do
  return "Posting(" ++ (← Decimal.written p.amount) ++ " " ++ p.asset ++ ": " ++ p.source ++ "→" ++
    p.destination ++ ")"

@[simp] theorem normalize_asset (p : Posting) : p.normalize.asset = p.asset := rfl

@[simp] theorem normalize_amount (p : Posting) : p.normalize.amount = p.amount := rfl

@[simp] theorem normalize_source (p : Posting) :
    p.normalize.source = Address.normalize p.source := rfl

@[simp] theorem normalize_destination (p : Posting) :
    p.normalize.destination = Address.normalize p.destination := rfl

end Posting

end DoubleEntry
