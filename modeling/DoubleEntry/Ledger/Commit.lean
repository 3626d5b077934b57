import DoubleEntry.Ledger.Basic

/-!
# Committing transactions

The postings of a transaction are staged in order against a running view of the
balances. A source must hold what is taken from it, unless it is the outside world
or was granted an overdraft. Only when all postings are staged is anything written.
-/

namespace DoubleEntry

/-- The balances that staged postings lead to, by account and asset. -/
abbrev Staged := Entries (Text × Text) Int

/-- What a transaction is to record. The overdrafts say for each address whether it
may go below zero. -/
structure Proposal where
  postings : List Posting
  metadata : Metadata
  overdrafts : Entries Text Bool
  reference : Data

/-- The overdrafts that are granted under keys. Only an address can be granted one, and
what does not count as present grants none. -/
def Proposal.granted (grants : List (Data × Data)) : Except Fault (Entries Text Bool) :=
  (grants.filter fun (_, allowed) => allowed.isPresent).mapM fun (address, _) => do
    return (← address.textOr .noFields, true)

namespace Ledger

/-- Whether an account may go below zero: the outside world always, another account
if any spelling of its address was granted an overdraft. -/
def mayOverdraw (overdrafts : Entries Text Bool) (address : Text) : Bool :=
  address = Address.world ||
    overdrafts.any fun (granted, allowed) => allowed && Address.normalize granted = address

/-- The balance in the running view. -/
def running (ledger : Ledger) (staged : Staged) (address asset : Text) : Int :=
  (staged.get? (address, asset)).getD (ledger.balance address asset)

/-- Stage one posting. -/
def stage (ledger : Ledger) (overdrafts : Entries Text Bool) (staged : Staged)
    (posting : Posting) : Except Fault Staged :=
  let available := ledger.running staged posting.source posting.asset
  if !mayOverdraw overdrafts posting.source && available < posting.amount then
    .error (.overdrawn posting.source posting.asset available posting.amount)
  else
    let debited := staged.put (posting.source, posting.asset) (available - posting.amount)
    let before := ledger.running debited posting.destination posting.asset
    .ok (debited.put (posting.destination, posting.asset) (before + posting.amount))

/-- Stage postings in order. -/
def stageAll (ledger : Ledger) (overdrafts : Entries Text Bool) (postings : List Posting) :
    Except Fault Staged :=
  postings.foldlM (ledger.stage overdrafts) []

/-- Mention both accounts of a posting. -/
def openEnds (ledger : Ledger) (posting : Posting) : Ledger :=
  (ledger.openAccount posting.source).openAccount posting.destination

/-- Write staged balances. -/
def settle (ledger : Ledger) (staged : Staged) : Ledger :=
  staged.foldl (fun ledger ((address, asset), amount) => ledger.setBalance address asset amount)
    ledger

/-- Record a transaction and use up its number. -/
def record (ledger : Ledger) (tx : Transaction) : Ledger :=
  { ledger with log := ledger.log ++ [tx], nextId := ledger.nextId + 1 }

/-- Commit a transaction: all of its postings are made, or it is refused. -/
def commit (ledger : Ledger) (proposal : Proposal) : Except Fault (Transaction × Ledger) := do
  let postings := proposal.postings.map Posting.normalize
  let staged ← ledger.stageAll proposal.overdrafts postings
  let tx : Transaction := {
    id := ledger.nextId
    postings
    metadata := proposal.metadata
    timestamp := ledger.now
    reference := proposal.reference }
  return (tx, ((postings.foldl openEnds ledger).settle staged).record tx)

/-- What a verbose ledger says of a transaction that was committed on it. The receipt is
written first; then the name of the ledger, which must be a text, is added. -/
def committedNote (ledger : Ledger) (tx : Transaction) : Except Fault Text := do
  let _ ← Receipt.ofTransaction tx
  let name ← ledger.name.textOr .wrongKind
  return Receipt.committedText tx name ++ "\n"

/-- Commit a transaction and answer for what is said of it: on a verbose ledger a
transaction that nothing can be said of stands, but is not answered with. -/
def commitAloud (ledger : Ledger) (proposal : Proposal) : Except Fault Transaction × Ledger :=
  match ledger.commit proposal with
  | .error fault => (.error fault, ledger)
  | .ok (tx, after) =>
    (if ledger.verbose then (fun _ => tx) <$> after.committedNote tx else .ok tx, after)

/-- The line on a posting that was refused. -/
def rejection (account asset : Text) (available required : Int) : Text :=
  "✗ REJECTED: " ++ account ++ " " ++ asset ++ ": has " ++ Decimal.ofInt available ++
    ", needs " ++ Decimal.ofInt required ++ "\n"

/-- What a verbose ledger says when it goes from one state to another: the receipts of
the transactions that were added, as far as they can be written, then the posting that
was refused, if one was. -/
def announcement (before after : Ledger) (fault : Option Fault) : Text :=
  if !before.verbose then []
  else
    let added := after.log.drop before.log.length
    let receipts := (added.filterMap fun tx => (after.committedNote tx).toOption).flatten
    let refusal := match fault.map Fault.reported with
      | some (.overdrawn account asset available required) =>
        rejection account asset available required
      | _ => []
    receipts ++ refusal

end Ledger

end DoubleEntry
