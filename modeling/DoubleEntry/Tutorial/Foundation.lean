import DoubleEntry.Tutorial.Console

/-!
# First lessons

The empty ledger, deposits, transfers and what happens to an overdraft.
-/

namespace DoubleEntry

namespace Lesson

/-- An empty ledger and the outside world. -/
def emptyLedger (settings : TutorialSettings) : Lesson Ledger := do
  stepHeader 1 "The Empty Ledger"
    "Understand that a ledger starts with a single account: @world."
  say <| paragraph [
    "",
    "    A ledger records balances of ACCOUNTS in ASSETS:",
    "",
    "    1. ACCOUNTS - Colon-separated addresses like @users:alice:wallet",
    "    2. ASSETS   - Identifiers like USD/2 (cents) or COIN (no decimals)",
    "    3. @world   - The source and sink of all value. The only account",
    "                  that may always go negative.",
    "",
    "    Accounts are created the first time a transaction touches them.",
    "    "]
  pause
  say (">>> ledger = Ledger('tutorial', initial_time=datetime(2025, 1, 1, 9, 0), " ++
    "verbose=True)")
  let ledger := Ledger.create (.text "tutorial") (some settings.startTime) true
  sectionHeader "Initial State"
  say ("Ledger:        " ++ (← lift ledger.summary))
  say ("Current time:  " ++ settings.startTime.shown)
  say ("Accounts:      " ++
    (Data.list (ledger.accounts.map fun (_, account) => .text account.address)).quoted)
  say ("Transactions:  " ++ Decimal.ofNat ledger.log.length)
  return ledger

/-- Money comes in from the outside world. -/
def firstDeposit (settings : TutorialSettings) (ledger : Ledger) : Lesson Ledger := do
  stepHeader 2 "The First Deposit" "Money enters through @world, so @world goes negative."
  let script := paragraph [
    "",
    "    send [USD/2 " ++ (← lift settings.aliceDeposit.written) ++ "] (",
    "        source = @world",
    "        destination = @users:alice:wallet",
    "    )",
    "    set_tx_meta(\"type\", \"DEPOSIT\")",
    "    "]
  say ">>> execute_numscript(script, ledger)"
  say script
  let (_, ledger) ← execute ledger script []
  let (_, ledger) ← execute ledger
    "send [USD/2 \x7bAMOUNT\x7d] ( source = @world destination = $user )"
    [("AMOUNT", settings.bobDeposit), ("user", .text "@users:bob:wallet")]
  sectionHeader "Balances"
  showBalances ledger
  sectionHeader "Key Insight"
  say <| paragraph [
    "",
    "    \x7bAMOUNT\x7d and $user are placeholders. They are substituted into the",
    "    script text before it is parsed, so the same script can be reused.",
    "    "]
  return ledger

/-- A plain transfer between users. -/
def transfer (ledger : Ledger) : Lesson Ledger := do
  stepHeader 3 "Transfers" "A send debits its source and credits its destination."
  let (_, ledger) ← execute ledger
    (paragraph [
      "",
      "        send [USD/2 2500] (",
      "            source = @users:alice:wallet",
      "            destination = @users:bob:wallet",
      "        )",
      "    "]) []
  sectionHeader "Balances"
  showBalances ledger
  return ledger

/-- The line on a script that was refused. -/
def sayRejected (fault : Fault) : Lesson Unit := say ("Rejected: " ++ fault.message)

/-- The details of a fault as a list of named texts. -/
def detailsText (fault : Fault) : Except Fault Text := (Data.object fault.details).quotation

/-- An overdraft is refused. -/
def overdraftRefused (ledger : Ledger) : Lesson Ledger := do
  stepHeader 4 "Insufficient Funds" "Ordinary accounts can never go below zero unless allowed."
  let ledger ← expectRefusal .insufficientFunds ledger
    (paragraph [
      "",
      "        send [USD/2 1000000] (",
      "            source = @users:bob:wallet",
      "            destination = @users:alice:wallet",
      "        )",
      "    "]) fun fault => do
    sayRejected fault
    say ("Details:  " ++ (← lift (detailsText fault)))
  sectionHeader "Nothing Changed"
  showBalances ledger
  return ledger

end Lesson

end DoubleEntry
