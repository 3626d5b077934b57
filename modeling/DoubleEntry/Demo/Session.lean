import DoubleEntry.Asset
import DoubleEntry.Demo.Basic
import DoubleEntry.Execution.Run
import DoubleEntry.Ledger.Lookup

/-!
# Sessions

A session walks through a demo on a ledger of its own. It remembers which steps were
executed and with which transactions, the latest answer to each query, and why the
latest failing step failed.
-/

namespace DoubleEntry

/-- A row of an answer. An account is kept by its address, since it goes on changing. -/
inductive Row where
  | balance (row : BalanceRow)
  | total (row : TotalRow)
  | transaction (tx : Transaction)
  | account (address : Text)
  deriving DecidableEq

/-- The answer to a query. -/
structure QueryResult where
  queryType : Text
  rows : List Row
  timestamp : Stamp
  deriving DecidableEq

/-- How the execution of a step went. -/
inductive StepOutcome where
  | committed (tx : Transaction)
  | refused (cause : Fault)

namespace StepOutcome

/-- The transaction of a step that went well. -/
def transaction? : StepOutcome → Option Transaction
  | .committed tx => some tx
  | .refused _ => none

/-- Why a step failed. -/
def cause? : StepOutcome → Option Fault
  | .committed _ => none
  | .refused cause => some cause

end StepOutcome

/-- A walkthrough in progress. -/
structure Session where
  demo : Demo
  ledger : Ledger
  verbose : Bool
  initialClock : Option Moment
  currentStep : Int
  executed : List Int
  transactions : Entries Int Transaction
  results : Entries Text QueryResult
  error : Option Text

namespace Session

/-- A session at the beginning of a demo. -/
def create (demo : Demo) (initialClock : Option Moment) (verbose : Bool) : Session :=
  { demo
    ledger := Ledger.create (.text demo.id) initialClock verbose
    verbose
    initialClock
    currentStep := -1
    executed := []
    transactions := []
    results := []
    error := none }

/-- Begin another demo on a new ledger. -/
def switchDemo (session : Session) (demo : Demo) : Session :=
  create demo session.initialClock session.verbose

/-- Empty the ledger and forget all steps and answers. -/
def reset (session : Session) : Session :=
  { session with
    ledger := session.ledger.reset
    currentStep := -1
    executed := []
    transactions := []
    results := []
    error := none }

/-! ## Steps -/

/-- Remember a step that went well. -/
def recordStep (session : Session) (index : Int) (tx : Transaction) : Session :=
  { session with
    executed := if session.executed.contains index then session.executed
      else session.executed ++ [index]
    transactions := session.transactions.put index tx
    currentStep := index
    error := none }

/-- Execute one step. A fault of the ledger or of the script is remembered; any other
fault is passed on. -/
def executeStep (session : Session) (index : Int) : Except Fault StepOutcome × Session :=
  match place? session.demo.steps index with
  | none => (.error .noSuchPlace, session)
  | some step =>
    match session.ledger.run step.script session.demo.vars with
    | (.ok tx, ledger) => (.ok (.committed tx), ({ session with ledger }).recordStep index tx)
    | (.error fault, ledger) =>
      if fault.isLedgerFault then
        (.ok (.refused fault), { session with ledger, error := some fault.message })
      else (.error fault, { session with ledger })

/-- Execute steps in order, up to the first that fails. -/
def executeSteps (session : Session) : List Int → Except Fault (List StepOutcome) × Session
  | [] => (.ok [], session)
  | index :: rest =>
    match session.executeStep index with
    | (.error fault, session) => (.error fault, session)
    | (.ok (.refused cause), session) => (.ok [.refused cause], session)
    | (.ok (.committed tx), session) =>
      let (outcome, session) := executeSteps session rest
      (outcome.map fun later => .committed tx :: later, session)

/-- Execute all steps in order, up to the first that fails. -/
def executeAll (session : Session) : Except Fault (List StepOutcome) × Session :=
  session.executeSteps ((List.range session.demo.steps.length).map Int.ofNat)

/-! ## Queries -/

/-- A text with the variables of the demo filled in. -/
def substitute (session : Session) (t : Text) : Except Fault Text :=
  Placeholder.substitute session.demo.vars t

/-- A value with the variables of the demo filled in. -/
def substituteData (session : Session) (value : Data) : Except Fault Data :=
  Placeholder.substituteData session.demo.vars value

/-- A value with placeholders that must be a pattern. -/
def pattern (session : Session) (value : Data) : Except Fault Text := do
  (← session.substituteData value).textOr .noFields

/-- The rows for a question for balances. Several patterns, and a pattern that can
stand for several accounts, are answered by totals. -/
def balanceRows (session : Session) (filter : Data) (filters : List Data) :
    Except Fault (List Row) := do
  if !filters.isEmpty then
    let patterns ← filters.mapM session.substituteData
    return (← session.ledger.totalsOfData (.list patterns)).map .total
  if filter.isPresent then
    let pattern ← session.pattern filter
    if Pattern.isWildcard pattern then
      return (session.ledger.totalsOf [pattern]).map .total
    return (session.ledger.balancesOf pattern).map .balance
  return []

/-- The rows for a question for transactions. -/
def transactionRows (session : Session) (account : Data)
    (metadata : Option Metadata) : Except Fault (List Row) := do
  let metadata ← (metadata.getD []).mapM fun (key, value) => do
    return (key, ← session.substituteData value)
  let account ← if account.isPresent then session.substituteData account else pure .null
  return (← session.ledger.transactionsTouching account metadata none none).map .transaction

/-- The rows for a question for accounts. -/
def accountRows (session : Session) (address : Text) : Except Fault (List Row) := do
  let address ← session.substitute address
  let found := session.ledger.accountsBy { address := some address, metadata := [] }
  return found.map fun entry => .account entry.2.address

/-- The rows that answer an inquiry. -/
def answer (session : Session) : Inquiry → Except Fault (List Row)
  | .balance filter filters => session.balanceRows filter filters
  | .transactions account metadata => session.transactionRows account metadata
  | .accounts address => session.accountRows address

/-- Answer a query and keep the answer under its title. -/
def runQuery (session : Session) (query : Query) : Except Fault (QueryResult × Session) := do
  let rows ← session.answer query.inquiry
  let result : QueryResult :=
    { queryType := query.inquiry.typeName, rows, timestamp := session.ledger.now }
  return (result, { session with results := session.results.put query.title result })

/-! ## Balances -/

/-- The balances that are not zero, by a pattern with placeholders. -/
def balancesOf (session : Session) (pattern : Data) : Except Fault (List BalanceRow) := do
  return session.ledger.balancesOf (← session.pattern pattern)

/-- The same in one line as people read it; a zero stands for none. -/
def formattedBalance (session : Session) (pattern : Data) : Except Fault Text := do
  let rows ← session.balancesOf pattern
  if rows.isEmpty then return "0"
  return Text.join ", " (← rows.mapM fun row => Asset.formatAmount row.balance row.asset)

/-- Every balance of every account besides the outside world, zeros included. -/
def allBalances (session : Session) : List BalanceRow :=
  session.ledger.accounts.flatMap fun (_, account) =>
    if account.address = Address.world then []
    else account.balances.map fun (asset, balance) =>
      { address := account.address, asset, balance }

/-- A session on one line. -/
def summary (session : Session) : Text :=
  "DemoSession(demo=" ++ session.demo.id.quoted ++ ", steps=" ++
    Decimal.ofNat session.executed.length ++ "/" ++ Decimal.ofNat session.demo.steps.length ++
    ", transactions=" ++ Decimal.ofNat session.ledger.log.length ++ ")"

end Session

end DoubleEntry
