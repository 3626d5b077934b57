import DoubleEntry.Ledger.Query
import DoubleEntry.Tutorial.Console

/-!
# Lessons on queries

Notes on transactions and accounts, and address patterns.
-/

namespace DoubleEntry

namespace Lesson

/-- Notes, and finding by them. -/
def metadata (ledger : Ledger) : Lesson Ledger := do
  stepHeader 9 "Metadata" "set_tx_meta tags the transaction; set_account_meta tags accounts."
  let (_, ledger) ← execute ledger
    (paragraph [
      "",
      "        send [USD/2 100] ( source = @platform:fees destination = @platform:reserve )",
      "        set_tx_meta(\"type\", \"SWEEP\")",
      "        set_account_meta(@platform:reserve, \"purpose\", \"chargebacks\")",
      "    "]) []
  sectionHeader "Transactions of type CHECKOUT or FX"
  (["CHECKOUT", "FX"] : List Text).forM fun type => do
    let found ← lift (ledger.transactionsBy
      { account := none, metadata := [(.text "type", .text type)], start := none, stop := none })
    found.forM fun tx =>
      say ("  #" ++ Decimal.ofInt tx.id ++ " " ++ type ++ " with " ++
        Decimal.ofNat tx.postings.length ++ " postings")
  sectionHeader "Accounts tagged purpose=chargebacks"
  let tagged := ledger.accountsBy
    { address := none, metadata := [(.text "purpose", .text "chargebacks")] }
  tagged.forM fun (_, account) => say ("  " ++ account.address)
  return ledger

/-- Patterns for many accounts. -/
def patterns (ledger : Ledger) : Lesson Ledger := do
  stepHeader 10 "Address Patterns"
    "A trailing colon matches a prefix; '::' matches any single segment."
  (["users:", "users::wallet", "platform:fees"] : List Text).forM fun pattern => do
    sayAll [[], ">>> ledger.get_balances(" ++ pattern.quoted ++ ")"]
    (ledger.balancesOf pattern).forM fun row => do
      let amount ← lift (Asset.formatAmount row.balance row.asset)
      say ("  " ++ row.address.padRight 28 ++ " " ++ amount)
  sectionHeader "Aggregated"
  (ledger.totalsOf ["users:", "partners:"]).forM fun total => do
    let amount ← lift (Asset.formatAmount total.balance total.asset)
    say ("  " ++ total.asset ++ ": " ++ amount ++ " across " ++
      Decimal.ofNat total.accounts.length ++ " accounts")
  return ledger

end Lesson

end DoubleEntry
