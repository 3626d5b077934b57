import DoubleEntry.Data.JsonText
import DoubleEntry.Main
import DoubleEntry.Proofs.Execution.Atomicity
import DoubleEntry.Proofs.Ledger.Conservation
import DoubleEntry.Proofs.Ledger.OneByOne
import DoubleEntry.Proofs.Ledger.Overdraft
import DoubleEntry.Proofs.Ledger.Affordable
import DoubleEntry.Proofs.Execution.Plan
import DoubleEntry.Proofs.Execution.Sequence
import DoubleEntry.Proofs.Execution.Acceptance
import DoubleEntry.Proofs.Text.Characters
import DoubleEntry.Proofs.Text.Layout
import DoubleEntry.Proofs.Text.Search
import DoubleEntry.Proofs.Script.Spelling
import DoubleEntry.Proofs.Script.Fragments
import DoubleEntry.Proofs.Script.Clauses
import DoubleEntry.Proofs.Script.RoundTrip
import DoubleEntry.Proofs.Ledger.Store
import DoubleEntry.Proofs.Execution.Monotone
import DoubleEntry.Proofs.Script.Notes
import DoubleEntry.Proofs.Script.Substitution
import DoubleEntry.Proofs.Demo.Freshness
import DoubleEntry.Proofs.Ledger.Chronology
import DoubleEntry.Proofs.Script.Heads
import DoubleEntry.Proofs.Script.Payment
import DoubleEntry.Proofs.Script.Silence
import DoubleEntry.Proofs.Script.Recognition
import DoubleEntry.Proofs.Script.Shares
import DoubleEntry.Proofs.Script.Diagram
import DoubleEntry.Proofs.Execution.Waterfall
import DoubleEntry.Proofs.Demo.Loading
import DoubleEntry.Proofs.Demo.Stepping
import DoubleEntry.Proofs.Execution.Allotment
import DoubleEntry.Proofs.Execution.Legs
import DoubleEntry.Proofs.Execution.Effect
import DoubleEntry.Proofs.Address.Pattern
import DoubleEntry.Proofs.Ledger.Totals
import DoubleEntry.Proofs.Ledger.Exact
import DoubleEntry.Proofs.Demo.Lookups
import DoubleEntry.Proofs.Execution.Outcomes
import DoubleEntry.Proofs.Script.Statements
import DoubleEntry.Proofs.Amounts
import DoubleEntry.Proofs.Script.Literals
import DoubleEntry.Proofs.Execution.SendAll
import DoubleEntry.Proofs.Demo.Positions
import DoubleEntry.Proofs.Execution.Substance
import DoubleEntry.Proofs.Execution.Foresight
import DoubleEntry.Proofs.Script.References
import DoubleEntry.Proofs.Execution.Booked
