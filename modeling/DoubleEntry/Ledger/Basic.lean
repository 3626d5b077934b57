import DoubleEntry.Ledger.Transaction

/-!
# Ledgers

A ledger holds accounts, in the order in which they were first mentioned, and the
log of its transactions. The account of the outside world is always there. Time is
kept by a clock of the ledger's own, if one was set, and else by the wall clock.
-/

namespace DoubleEntry

/-- What a ledger knows about an account, its address in full spelling included. -/
structure Account where
  address : Text
  balances : Entries Text Int
  metadata : Metadata
  firstUsage : Stamp
  deriving DecidableEq

namespace Account

/-- An account that is mentioned for the first time. -/
def fresh (address : Text) (stamp : Stamp) : Account :=
  { address, balances := [], metadata := [], firstUsage := stamp }

/-- The balance of an asset, zero if there was never any. -/
def balance (account : Account) (asset : Text) : Int := (account.balances.get? asset).getD 0

end Account

/-- A book of accounts and transactions. The name is kept as it is given. -/
structure Ledger where
  name : Data
  verbose : Bool
  accounts : Entries Text Account
  log : List Transaction
  nextId : Nat
  clock : Option Moment
  deriving DecidableEq

namespace Ledger

/-- The present time. -/
def now (ledger : Ledger) : Stamp :=
  match ledger.clock with
  | some moment => .logical moment
  | none => .wallClock

/-- What is known about an account, whichever way its address is spelled. -/
def account? (ledger : Ledger) (address : Text) : Option Account :=
  ledger.accounts.get? (Address.normalize address)

/-- The balance of an asset in an account. -/
def balance (ledger : Ledger) (address asset : Text) : Int :=
  match ledger.account? address with
  | some account => account.balance asset
  | none => 0

/-- All balances of an account. -/
def balances (ledger : Ledger) (address : Text) : Entries Text Int :=
  match ledger.account? address with
  | some account => account.balances
  | none => []

/-- Mention an account, so that it is there afterwards. -/
def openAccount (ledger : Ledger) (address : Text) : Ledger :=
  let address := Address.normalize address
  if ledger.accounts.hasKey address then ledger
  else { ledger with accounts := ledger.accounts.put address (Account.fresh address ledger.now) }

/-- Change an account that is there. -/
def updateAccount (ledger : Ledger) (address : Text) (change : Account → Account) : Ledger :=
  match ledger.accounts.get? address with
  | some account => { ledger with accounts := ledger.accounts.put address (change account) }
  | none => ledger

/-- Write a balance over, without any posting. -/
def setBalance (ledger : Ledger) (address asset : Text) (amount : Int) : Ledger :=
  ledger.updateAccount address fun account =>
    { account with balances := account.balances.put asset amount }

/-- Note a value under a key on an account, which is mentioned by that. -/
def annotate (ledger : Ledger) (address : Text) (key value : Data) : Ledger :=
  let address := Address.normalize address
  (ledger.openAccount address).updateAccount address fun account =>
    { account with metadata := account.metadata.put key value }

/-- The state that every ledger begins in and returns to: only the outside world is
there, and nothing was logged. -/
def cleared (ledger : Ledger) : Ledger :=
  ({ ledger with accounts := [], log := [], nextId := 1 } : Ledger).openAccount Address.world

/-- A new ledger. -/
def create (name : Data) (clock : Option Moment) (verbose : Bool) : Ledger :=
  cleared { name, verbose, accounts := [], log := [], nextId := 1, clock }

/-- Forget all accounts and transactions. The clock goes on. -/
def reset (ledger : Ledger) : Ledger := ledger.cleared

/-- Move the clock on. A ledger without a clock of its own is given one; a clock is
never moved back, nor to a moment that cannot be compared with what it shows. -/
def advance (ledger : Ledger) (moment : Moment) : Except Fault Ledger :=
  match ledger.clock with
  | some current =>
    match moment.isBefore? current with
    | some true => .error (.backwards moment current)
    | some false => .ok { ledger with clock := some moment }
    | none => .error .wrongKind
  | none => .ok { ledger with clock := some moment }

/-- The number of accounts besides the outside world. -/
def accountCount (ledger : Ledger) : Int := (ledger.accounts.length : Int) - 1

/-- The transaction with a number. -/
def transaction? (ledger : Ledger) (id : Int) : Option Transaction :=
  if 1 ≤ id && id ≤ ledger.log.length then ledger.log[(id - 1).toNat]? else none

/-- A ledger on one line. -/
def summary (ledger : Ledger) : Except Fault Text := do
  return "Ledger(" ++ (← ledger.name.quotation) ++ ", " ++ Decimal.ofInt ledger.accountCount ++
    " accounts, " ++ Decimal.ofNat ledger.log.length ++ " transactions)"

end Ledger

end DoubleEntry
