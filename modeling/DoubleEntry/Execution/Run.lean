import DoubleEntry.Execution.Send
import DoubleEntry.Ledger.Commit
import DoubleEntry.Script.Basic

/-!
# Running scripts

A script makes one transaction. Its sends are worked out first, without touching the
ledger; their postings are then committed together. What the script notes on accounts
is noted last, once the transaction stands.
-/

namespace DoubleEntry

namespace Script

/-- What the script notes on its transaction: the last text under each key. -/
def transactionNotes (script : Script) : Metadata :=
  Metadata.ofPairs (script.notes.filterMap fun
    | .transaction key value => some (.text key, .text value)
    | .account _ _ _ => none)

/-- What the script notes on accounts. -/
def accountNotes (script : Script) : List (Text × Text × Text) :=
  script.notes.filterMap fun
    | .account account key value => some (account, key, value)
    | .transaction _ _ => none

/-- The references to all sources that are granted an overdraft. -/
def grantedReferences (sends : List Send) : List Text :=
  sends.flatMap fun send =>
    (send.sources.filter fun source => source.overdraft.isGranted).map Source.account

/-- The overdrafts that sends grant, that of the outside world included. -/
def overdrafts (sends : List Send) : Except Fault (Entries Text Bool) := do
  let accounts ← (grantedReferences sends).mapM (resolve [])
  return Entries.ofPairs ((Address.world, true) :: accounts.map fun account => (account, true))

end Script

namespace Ledger

/-- The transaction that a script proposes. -/
def propose (ledger : Ledger) (script : Script) : Except Fault Proposal := do
  let (postings, _) ← ledger.executeSends [] [] script.sends
  let overdrafts ← Script.overdrafts script.sends
  return { postings, metadata := script.transactionNotes, overdrafts, reference := .null }

/-- Note texts on accounts in order, up to the first reference that means no
account. -/
def annotateAll (ledger : Ledger) : List (Text × Text × Text) → Except Fault Unit × Ledger
  | [] => (.ok (), ledger)
  | (reference, key, value) :: rest =>
    match Script.resolve [] reference with
    | .ok account => annotateAll (ledger.annotate account (.text key) (.text value)) rest
    | .error fault => (.error fault, ledger)

/-- Run a script that was read. -/
def runScript (ledger : Ledger) (script : Script) : Except Fault Transaction × Ledger :=
  match ledger.propose script with
  | .error fault => (.error fault, ledger)
  | .ok proposal =>
    match ledger.commitAloud proposal with
    | (.error fault, after) => (.error fault, after)
    | (.ok tx, committed) =>
      let (outcome, annotated) := committed.annotateAll script.accountNotes
      (outcome.map fun _ => tx, annotated)

/-- Run a script with given variables: fill in the placeholders, read the script and
run it. -/
def run (ledger : Ledger) (text : Text) (vars : Variables) :
    Except Fault Transaction × Ledger :=
  match Placeholder.substitute vars text with
  | .error fault => (.error fault, ledger)
  | .ok filled => ledger.runScript (Script.ofText filled)

end Ledger

end DoubleEntry
