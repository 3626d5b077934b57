import DoubleEntry.Address.Pattern
import DoubleEntry.Ledger.Basic

/-!
# Questions to a ledger

Balances, transactions and accounts by pattern, by what was noted on them and by
time, and the check that everything sums to zero.
-/

namespace DoubleEntry

/-- The balance of an asset in an account. -/
structure BalanceRow where
  address : Text
  asset : Text
  balance : Int
  deriving DecidableEq

/-- The balance of an asset over several accounts. -/
structure TotalRow where
  asset : Text
  balance : Int
  accounts : List Text
  deriving DecidableEq

/-- What is asked of a transaction. -/
structure TransactionFilter where
  account : Option Text
  metadata : Metadata
  start : Option Moment
  stop : Option Moment

/-- What is asked of an account. -/
structure AccountFilter where
  address : Option Text
  metadata : Metadata

/-- The sums of all balances. -/
structure Audit where
  supplies : Entries Text Int
  deriving DecidableEq

namespace Audit

/-- The assets whose balances do not sum to zero, with their sums. -/
def discrepancies (audit : Audit) : Entries Text Int :=
  audit.supplies.filter fun (_, total) => total ≠ 0

/-- Whether all balances of every asset sum to zero. -/
def isValid (audit : Audit) : Bool := audit.discrepancies.isEmpty

end Audit

namespace Ledger

/-- The balances that are not zero, of all accounts that a pattern stands for. -/
def balancesOf (ledger : Ledger) (pattern : Text) : List BalanceRow :=
  ledger.accounts.flatMap fun (address, account) =>
    if Pattern.accepts pattern address then
      (account.balances.filter fun (_, balance) => balance ≠ 0).map fun (asset, balance) =>
        { address, asset, balance }
    else []

/-- The rows of several patterns, each once. -/
def unionRows (ledger : Ledger) (patterns : List Text) : List BalanceRow :=
  (patterns.flatMap ledger.balancesOf).eraseDups

/-- The sum of the rows of one asset. -/
def totalOf (rows : List BalanceRow) (asset : Text) : TotalRow :=
  let own := rows.filter fun row => row.asset = asset
  { asset
    balance := own.foldl (fun total row => total + row.balance) 0
    accounts := own.map BalanceRow.address }

/-- The balances of all accounts that any of the patterns stands for, summed by asset.
An account that several patterns stand for counts once. -/
def totalsOf (ledger : Ledger) (patterns : List Text) : List TotalRow :=
  let rows := ledger.unionRows patterns
  (rows.map BalanceRow.asset).eraseDups.map (totalOf rows)

/-- Whether a posting touches an account that a pattern stands for. -/
def touches (pattern : Text) (posting : Posting) : Bool :=
  Pattern.accepts pattern posting.source || Pattern.accepts pattern posting.destination

/-- Whether a time is on the right side of a bound, if they can be compared. The wall clock
has a zone, so that a bound without one cannot be compared with it; what another bound says
of a time that is not recorded is left open, and is not told apart from this. -/
def withinBound (stamp : Stamp) (bound : Option Moment)
    (outside? : Moment → Moment → Option Bool) : Except Fault Bool :=
  match bound, stamp with
  | none, _ => .ok true
  | some bound, .logical moment =>
    match outside? moment bound with
    | some outside => .ok (!outside)
    | none => .error .wrongKind
  | some _, .wallClock => .error .wrongKind

/-- Whether a transaction is one that is asked for. -/
def satisfies (filter : TransactionFilter) (tx : Transaction) : Except Fault Bool := do
  if (filter.account.all fun pattern => pattern.isEmpty || tx.postings.any (touches pattern)) &&
      tx.metadata.answers filter.metadata then
    if ← withinBound tx.timestamp filter.start Moment.isBefore? then
      withinBound tx.timestamp filter.stop fun moment bound => bound.isBefore? moment
    else return false
  else return false

/-- The transactions that are asked for, in the order of their numbers. -/
def transactionsBy (ledger : Ledger) (filter : TransactionFilter) :
    Except Fault (List Transaction) :=
  ledger.log.filterM (satisfies filter)

/-- The accounts that are asked for, in the order in which they were first
mentioned. -/
def accountsBy (ledger : Ledger) (filter : AccountFilter) : Entries Text Account :=
  ledger.accounts.filter fun (_, account) =>
    (filter.address.all fun pattern =>
      pattern.isEmpty || Pattern.accepts pattern account.address) &&
      account.metadata.answers filter.metadata

/-- Add up all balances, account by account in the order of the addresses. -/
def audit (ledger : Ledger) : Audit :=
  let byAddress := ledger.accounts.mergeSort fun a b => a.1.isUpTo b.1
  let amounts := byAddress.flatMap fun (_, account) => account.balances
  { supplies := amounts.foldl
      (fun sums (asset, amount) => sums.put asset ((sums.get? asset).getD 0 + amount)) [] }

end Ledger

end DoubleEntry
