import DoubleEntry.Asset
import DoubleEntry.Execution.Run

/-!
# Lessons

A lesson prints lines and pauses between pages. It may end early with a fault; what it
printed before stays printed.
-/

namespace DoubleEntry

/-- What was printed: the finished pages and the pieces of the present one, the latest
first. -/
structure Console where
  pages : List Text
  pieces : List Text

/-- A part of the tutorial. -/
abbrev Lesson (α : Type) := ExceptT Fault (StateM Console) α

namespace Console

/-- Nothing printed yet. -/
def blank : Console := { pages := [], pieces := [] }

/-- Print a text as it is. -/
def put (console : Console) (t : Text) : Console :=
  { console with pieces := t :: console.pieces }

/-- The present page. -/
def page (console : Console) : Text := console.pieces.reverse.flatten

/-- Go on to the next page. -/
def turn (console : Console) : Console :=
  { pages := console.page :: console.pages, pieces := [] }

/-- All pages in order. -/
def allPages (console : Console) : List Text := (console.page :: console.pages).reverse

end Console

namespace Lesson

/-- Print a text as it is. -/
def put (t : Text) : Lesson Unit := modify fun console => console.put t

/-- Print a line. -/
def say (line : Text) : Lesson Unit := put (line ++ "\n")

/-- Print several lines. -/
def sayAll (lines : List Text) : Lesson Unit := lines.forM say

/-- Wait for the reader. -/
def pause : Lesson Unit := modify Console.turn

/-- The line that sets headings off. -/
def rule : Text := List.replicate 70 '='

/-- The heading of a step and what it is for. -/
def stepHeader (number : Nat) (title objective : Text) : Lesson Unit := do
  sayAll [[], rule]
  say ("STEP " ++ Decimal.ofNat number ++ ": " ++ title)
  sayAll [rule, [], "Objective: " ++ objective, []]

/-- The heading of a section. -/
def sectionHeader (title : Text) : Lesson Unit :=
  sayAll [[], "--- " ++ title ++ " ---", []]

/-- Lines of a text, put together. -/
def paragraph (lines : List Text) : Text := Text.join "\n" lines

/-- Run a script on a ledger and print what the ledger says. -/
def execute (ledger : Ledger) (script : Text) (vars : Variables) :
    Lesson (Transaction × Ledger) := do
  match ledger.run script vars with
  | (.ok tx, after) =>
    put (Ledger.announcement ledger after none)
    return (tx, after)
  | (.error fault, after) =>
    put (Ledger.announcement ledger after (some fault))
    throw fault

/-- Run a script that is expected to be refused in a certain way; another refusal ends
the tutorial. -/
def expectRefusal (kind : Fault.Kind) (ledger : Ledger) (script : Text)
    (explain : Fault → Lesson Unit) : Lesson Ledger := do
  match ledger.run script [] with
  | (.ok _, after) =>
    put (Ledger.announcement ledger after none)
    return after
  | (.error fault, after) =>
    put (Ledger.announcement ledger after (some fault))
    if fault.reported.kind = kind then
      explain fault
      return after
    else throw fault

/-- A fault as the result of a pure step ends the tutorial. -/
def lift {α : Type} (result : Except Fault α) : Lesson α :=
  match result with
  | .ok v => pure v
  | .error fault => throw fault

/-- The asset that the tutorial counts in. -/
def dollars : Text := "USD/2"

/-- Print the balance of every account. -/
def showBalances (ledger : Ledger) : Lesson Unit :=
  ledger.accounts.forM fun (_, account) => do
    let amount ← lift (Asset.formatAmount (account.balance dollars) dollars)
    say ("  " ++ account.address.padRight 32 ++ " " ++ amount.padLeft 14)

end Lesson

/-- What the tutorial works with. The values are put into scripts as they are given. -/
structure TutorialSettings where
  startTime : Moment
  aliceDeposit : Data
  bobDeposit : Data
  checkoutAmount : Data
  promoCredit : Data
  platformFee : Data
  usdToConvert : Data
  eurReceived : Data

namespace TutorialSettings

/-- The values unless others are given. -/
def standard : TutorialSettings :=
  { startTime := { year := 2025, month := 1, day := 1, hour := 9, minute := 0, second := 0,
                   microsecond := 0 }
    aliceDeposit := .int 10000
    bobDeposit := .int 5000
    checkoutAmount := .int 7500
    promoCredit := .int 1500
    platformFee := .text "2.5%"
    usdToConvert := .int 10000
    eurReceived := .int 9200 }

end TutorialSettings

end DoubleEntry
