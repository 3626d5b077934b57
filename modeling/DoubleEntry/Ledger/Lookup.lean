import DoubleEntry.Data.Access
import DoubleEntry.Ledger.Query

/-!
# Lookups by values of any kind

What a ledger is asked with can come from a configuration or a request, where the kind
of a value is not known beforehand. A value of the wrong kind is refused only where it
is needed: under an account that is not there nothing is looked up, and a filter that
does not count as present filters nothing.
-/

namespace DoubleEntry

namespace Ledger

/-- The balance of an asset in an account. Only a text names an asset that an account
can hold. -/
def balanceOfData (ledger : Ledger) (address : Text) (asset : Data) : Except Fault Int :=
  match ledger.account? address with
  | none => .ok 0
  | some account => do
    match ← asset.asKey with
    | .text asset => return account.balance asset
    | _ => return 0

/-- What was noted on an account under a key; null stands for nothing. -/
def noteOfData (ledger : Ledger) (address : Text) (key : Data) : Except Fault Data :=
  match ledger.account? address with
  | none => .ok .null
  | some account => do return (account.metadata.get? (← key.asKey)).getD .null

/-- Note a value under a key on an account. The account is mentioned by that, even if the
key is refused. -/
def annotateData (ledger : Ledger) (address : Text) (key value : Data) :
    Except Fault Unit × Ledger :=
  match key.asKey with
  | .ok key => (.ok (), ledger.annotate address key value)
  | .error fault => (.error fault, ledger.openAccount address)

/-- The sums over the accounts that any of several patterns stands for. -/
def totalsOfData (ledger : Ledger) (patterns : Data) : Except Fault (List TotalRow) := do
  return ledger.totalsOf (← (← patterns.elements).mapM (Data.textOr .noFields))

/-- The pattern of a filter, if it has one. -/
def filterPattern (value : Data) : Except Fault (Option Text) :=
  if value.isPresent then some <$> value.textOr .noFields else .ok none

/-- The transactions that are asked for. A pattern that is no text fails at the first
posting that it is held against; a transaction without postings is not touched. -/
def transactionsTouching (ledger : Ledger) (account : Data) (metadata : Metadata)
    (start stop : Option Moment) : Except Fault (List Transaction) :=
  match filterPattern account with
  | .ok account => ledger.transactionsBy { account, metadata, start, stop }
  | .error fault =>
    if ledger.log.any fun tx => !tx.postings.isEmpty then .error fault else .ok []

/-- The accounts that are asked for. -/
def accountsOfData (ledger : Ledger) (address : Data) (metadata : Metadata) :
    Except Fault (Entries Text Account) := do
  return ledger.accountsBy { address := ← filterPattern address, metadata }

/-- The transaction with a number. A number with a fraction mark is compared with the
numbers in use, but nothing is kept under it. -/
def transactionOfData (ledger : Ledger) (id : Data) : Except Fault (Option Transaction) :=
  match id with
  | .double x =>
    match x.fraction? with
    | some (n, d) =>
      if d ≤ n && n ≤ ledger.log.length * d then .error .wrongKind else .ok none
    | none => .ok none
  | other => do return ledger.transaction? (← other.whole)

end Ledger

end DoubleEntry
