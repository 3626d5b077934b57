import DoubleEntry.Demo.Session
import DoubleEntry.Tutorial.Scripts

/-!
# Lessons on demos

A configured demo, the proof that value is conserved, and a fresh start.
-/

namespace DoubleEntry

namespace Lesson

/-- The demo of the tutorial: a transfer abroad with a fee. -/
def remittance : Demo :=
  { id := "remittance"
    name := "Cross-border remittance"
    description := .text "Fund a sender, transfer with a fee"
    accounts := [
      { address := "@world", name := "World", description := .text [], color := "slate" },
      { address := "@senders:\x7bSENDER\x7d:wallet", name := "Sender", description := .text [],
        color := "blue" },
      { address := "@recipients:\x7bRECIPIENT\x7d:wallet", name := "Recipient",
        description := .text [], color := "green" },
      { address := "@platform:fees", name := "Fees", description := .text [],
        color := "amber" }]
    vars := [("SENDER", .text "s-001"), ("RECIPIENT", .text "r-001")]
    steps := [
      { transactionType := "DEPOSIT"
        label := "Fund sender"
        description := .text "Sender deposits $500"
        script := paragraph [
          "",
          "                send [USD/2 50000] ( source = @world " ++
            "destination = @senders:\x7bSENDER\x7d:wallet )",
          "                set_tx_meta(\"type\", \"DEPOSIT\")",
          "            "]
        queries := [] },
      { transactionType := "TRANSFER"
        label := "Send money"
        description := .text "Transfer $200 with a 1% fee"
        script := paragraph [
          "",
          "                send [USD/2 20000] (",
          "                    source = @senders:\x7bSENDER\x7d:wallet",
          "                    destination = \x7b 1% to @platform:fees " ++
            "remaining to @recipients:\x7bRECIPIENT\x7d:wallet \x7d",
          "                )",
          "                set_tx_meta(\"type\", \"TRANSFER\")",
          "            "]
        queries := [
          { title := "Recipient"
            description := .text []
            inquiry := .balance (.text "recipients:") [] }] }]
    usefulQueries := [
      { title := "Transfers"
        description := .text []
        inquiry := .transactions .null (some [(.text "type", .text "TRANSFER")]) }] }

/-- Several texts in parentheses; one alone keeps its comma. -/
def parenthesized (items : List Text) : Text :=
  let inner := Text.join ", " (items.map Text.quoted)
  "(" ++ inner ++ (if items.length = 1 then "," else [] : Text) ++ ")"

/-- A row of an answer on one line. -/
def rowText : Row → Except Fault Text
  | .balance row => do
    return "BalanceResult(address=" ++ row.address.quoted ++ ", asset=" ++ row.asset.quoted ++
      ", balance=" ++ (← Decimal.written row.balance) ++ ")"
  | .total row => do
    return "AggregatedBalance(asset=" ++ row.asset.quoted ++ ", balance=" ++
      (← Decimal.written row.balance) ++ ", accounts=" ++ parenthesized row.accounts ++ ")"
  | .transaction tx => Receipt.ofTransaction tx
  | .account address => .ok address

/-- Execute one step of the demo and ask its queries. -/
def walkStep (session : Session) (index : Nat) (step : Step) : Lesson Session := do
  sectionHeader (step.label ++ ": " ++ (← lift step.description.written))
  match session.executeStep index with
  | (.ok (.committed tx), session) =>
    say ("  committed #" ++ Decimal.ofInt tx.id)
    step.queries.foldlM (fun session query => do
      let (result, session) ← lift (session.runQuery query)
      result.rows.forM fun row => do say ("  " ++ query.title ++ ": " ++ (← lift (rowText row)))
      return session) session
  | (.ok (.refused _), _) => throw .noFields
  | (.error fault, _) => throw fault

/-- Execute the steps of the demo from one place on. -/
def walkFrom (session : Session) (index : Nat) : List Step → Lesson Session
  | [] => pure session
  | step :: rest => do
    let session ← walkStep session index step
    walkFrom session (index + 1) rest

/-- A demo step by step. -/
def demoSession (settings : TutorialSettings) : Lesson Session := do
  stepHeader 11 "Demo Sessions" "A DemoConfig lists accounts, variables and scripted steps."
  let session := Session.create remittance (some settings.startTime) false
  say (">>> " ++ session.summary)
  let session ← walkFrom session 0 session.demo.steps
  sectionHeader "Account Overview"
  session.demo.accounts.forM fun account => do
    let balance ← lift (session.formattedBalance (.text account.address))
    say ("  " ++ account.name.padRight 10 ++ " " ++ balance)
  sayAll [[], ">>> " ++ session.summary]
  return session

/-- The sums of all balances as a list of named numbers. -/
def suppliesText (audit : Audit) : Except Fault Text :=
  (Data.object (audit.supplies.map fun (asset, total) => (asset, .int total))).quotation

/-- Everything sums to zero, and a fresh start. -/
def conservation (ledger : Ledger) (session : Session) : Lesson Unit := do
  stepHeader 12 "Conservation and Reset"
    "Every asset sums to zero across all accounts, @world included."
  ([("tutorial", ledger), ("remittance", session.ledger)] : List (Text × Ledger)).forM
    fun (name, subject) => do
      say ("  " ++ name.padRight 12 ++ " valid=" ++ truthText subject.audit.isValid ++
        " supplies=" ++ (← lift (suppliesText subject.audit)))
  sectionHeader "Validation Without Execution"
  (["send [USD/2 1] ( source = @a destination = @b )", "set_tx_meta(\"k\", \"v\")"] :
      List Text).forM fun script =>
    say ("  valid=" ++ truthText (Script.isValid script) ++ " errors=" ++
      (Data.list ((Script.problems script).map .text)).quoted)
  sectionHeader "Reset"
  let session := session.reset
  say (">>> session.reset()  ->  " ++ session.summary)
  let balance ← lift (Decimal.written (session.ledger.balance Address.world dollars))
  say ("World balance after reset: " ++ balance)

end Lesson

end DoubleEntry
