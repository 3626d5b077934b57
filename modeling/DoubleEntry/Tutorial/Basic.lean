import DoubleEntry.Tutorial.Queries
import DoubleEntry.Tutorial.Walkthrough

/-!
# The tutorial

Twelve lessons on ledgers and scripts. They can be read at one go or page by page.
-/

namespace DoubleEntry

namespace Tutorial

/-- The words for the way of reading. -/
def modeText (interactive : Bool) : Text :=
  if interactive then "Running in INTERACTIVE mode (press Enter to advance)"
  else "Running in QUICK mode (no pauses)"

/-- What the tutorial is about. -/
def opening (interactive : Bool) : Lesson Unit := do
  Lesson.sayAll [
    Lesson.rule,
    "       NUMSCRIPT LEDGER TUTORIAL",
    Lesson.rule,
    "",
    "    This tutorial walks through the ledger one concept at a time.",
    "",
    "      1-4:   Foundation      - Empty ledger, @world, deposits, rejections",
    "      5-8:   Numscript       - Atomicity, waterfalls, splits, multi-asset",
    "      9-10:  Queries         - Metadata, patterns, aggregation",
    "      11-12: Demo Sessions   - Config-driven steps, conservation, reset",
    "    ",
    modeText interactive]

/-- What was learned. -/
def closing : Lesson Unit :=
  Lesson.sayAll [
    "",
    Lesson.rule,
    "       TUTORIAL COMPLETE!",
    Lesson.rule,
    "",
    "    You've learned:",
    "",
    "    FOUNDATION",
    "      - @world is where value enters and leaves",
    "      - Ordinary accounts cannot overdraw",
    "",
    "    NUMSCRIPT",
    "      - A script commits as one atomic transaction",
    "      - Waterfalls drain sources in order",
    "      - Portions round down and the remainder goes last",
    "",
    "    QUERIES",
    "      - Metadata filters for transactions and accounts",
    "      - Prefix and wildcard address patterns",
    "",
    "    Next steps:",
    "      - Run tests: pytest tests/",
    "    "]

/-- All lessons in order. -/
def lessons (settings : TutorialSettings) (interactive : Bool) : Lesson Unit := do
  opening interactive
  Lesson.pause
  let ledger ← Lesson.emptyLedger settings
  Lesson.pause
  let ledger ← Lesson.firstDeposit settings ledger
  Lesson.pause
  let ledger ← Lesson.transfer ledger
  Lesson.pause
  let ledger ← Lesson.overdraftRefused ledger
  Lesson.pause
  let ledger ← Lesson.atomicity ledger
  Lesson.pause
  let ledger ← Lesson.waterfall settings ledger
  Lesson.pause
  let ledger ← Lesson.splitting ledger
  Lesson.pause
  let ledger ← Lesson.conversion settings ledger
  Lesson.pause
  let ledger ← Lesson.metadata ledger
  Lesson.pause
  let ledger ← Lesson.patterns ledger
  Lesson.pause
  let session ← Lesson.demoSession settings
  Lesson.pause
  Lesson.conservation ledger session
  closing

/-- The pages of the tutorial, and the fault that ended it early, if one did. -/
def pages (settings : TutorialSettings) (interactive : Bool) : List Text × Option Fault :=
  let (outcome, console) := (ExceptT.run (lessons settings interactive)).run Console.blank
  (console.allPages, match outcome with
    | .ok _ => none
    | .error fault => some fault)

/-- What asks the reader to go on. -/
def prompt : Text := "\n[Press Enter to continue...]"

/-- What is printed when the reader goes on a given number of times, and the fault at
the end. Between two pages the reader has to go on; if they do not, the input has
ended. -/
def turnPages : Nat → List Text → Option Fault → Text × Option Fault
  | _, [], fault => ([], fault)
  | _, [page], fault => (page, fault)
  | 0, page :: _ :: _, _ => (page ++ prompt, some .inputEnded)
  | turns + 1, page :: next :: rest, fault =>
    let (later, fault) := turnPages turns (next :: rest) fault
    (page ++ prompt ++ later, fault)

/-- All that the tutorial prints, and the fault that ended it. Without a number of turns
it is read at one go. -/
def transcript (settings : TutorialSettings) (turns : Option Nat) : Text × Option Fault :=
  match turns with
  | none =>
    let (pages, fault) := pages settings false
    (pages.flatten, fault)
  | some turns =>
    let (pages, fault) := pages settings true
    turnPages turns pages fault

end Tutorial

end DoubleEntry
