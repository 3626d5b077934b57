import DoubleEntry.Script.Destination
import DoubleEntry.Script.Source

/-!
# Send statements

A send statement `send [ASSET AMOUNT] ( source = … destination = … )` moves an
amount from its sources to its destinations.
-/

namespace DoubleEntry

/-- A send statement that was read. -/
structure Send where
  monetary : Monetary
  sources : List Source
  destinations : List Destination
  deriving DecidableEq

namespace Send

/-- The parts of a statement: what stands for the amount, and the text between the
parentheses. -/
structure Parts where
  amount : Text
  body : Text

/-- Blanks and a text in parentheses. -/
def body : Reader Text := do
  Reader.blanks
  Reader.enclosed '(' ')'

/-- What stands for the amount, and the body: a bracketed literal, or else the fewest
characters without a blank that a body follows. -/
def amountAndBody : Reader Parts :=
  (do
    let inner ← Reader.enclosed '[' ']'
    let body ← body
    return { amount := inner.enclosed '[' ']', body }) <|>
  (do
    let (amount, body) ← Reader.upTo1 (fun c => !isBlank c) body
    return { amount, body })

/-- A statement. -/
def statement : Reader Parts := do
  Reader.word "send"
  Reader.gap
  amountAndBody

/-- All statements in a text. Each begins at the start of a word. -/
def statements (t : Text) : List (Found Parts) :=
  Search.all (Search.atWordStart isWordChar) statement t

/-- The send that the parts of a statement describe. -/
def ofParts (parts : Parts) : Except Fault Send := do
  if parts.amount.head? ≠ some (.char '[') then throw (.unresolvedAmount parts.amount)
  let monetary ← Monetary.ofText parts.amount
  match Search.first? Search.anywhere Source.clause parts.body,
      Search.first? Search.anywhere Destination.clause parts.body with
  | none, _ => throw .noSource
  | some _, none => throw .noDestination
  | some source, some destination =>
    let sources ← Source.ofBlock source.value
    return { monetary, sources, destinations := Destination.ofBlock destination.value }

/-- Read the first statement in a text. -/
def ofText (t : Text) : Except Fault Send :=
  match (statements t).head? with
  | some found => ofParts found.value
  | none => .error .noSend

end Send

end DoubleEntry
