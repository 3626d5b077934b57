import DoubleEntry.Data.Display
import DoubleEntry.Ledger.Posting
import DoubleEntry.Metadata

/-!
# Transactions

A transaction is a numbered record of postings that were made together. Its receipt
shows it in a box of fixed width.
-/

namespace DoubleEntry

/-- A committed record. The reference is kept as it is given. -/
structure Transaction where
  id : Int
  postings : List Posting
  metadata : Metadata
  timestamp : Stamp
  reference : Data
  deriving DecidableEq

namespace Stamp

/-- What stands for a time that is not recorded. -/
def wallClockMark : Text := "<wall clock>"

/-- The width of a time of the wall clock with its fraction and its zone. -/
def wallClockWidth : Nat := 32

/-- A time as records carry it. -/
def text : Stamp → Text
  | .logical moment => moment.stamp
  | .wallClock => wallClockMark

end Stamp

namespace Receipt

/-- The number of characters between the sides of the box. -/
def width : Nat := 80

/-- A horizontal line of the box. -/
def bar : Text := List.replicate width '─'

/-- The content of a line, cut or filled up to the width. -/
def fit (t : Text) : Text :=
  if width < t.length then t.take (width - 3) ++ "..." else t.padRight width

/-- A line of the box with content. -/
def row (t : Text) : Text := "│" ++ fit t ++ "│"

/-- The upper edge. -/
def top : Text := "┌" ++ bar ++ "┐"

/-- The line between two sections. -/
def divider : Text := "├" ++ bar ++ "┤"

/-- The lower edge. -/
def bottom : Text := "└" ++ bar ++ "┘"

/-- The line with the time. A time that is not recorded takes the room that it would
need. -/
def timeRow (stamp : Stamp) : Text :=
  let label : Text := "   timestamp : "
  match stamp with
  | .logical moment => row (label ++ moment.shown)
  | .wallClock =>
    "│" ++ label ++ Stamp.wallClockMark ++
      Text.spaces (width - label.length - Stamp.wallClockWidth) ++ "│"

/-- The line of one posting. -/
def postingRow (posting : Posting) (index : Nat) : Text :=
  row ("   [" ++ Decimal.ofNat index ++ "] " ++ Decimal.ofNat posting.amount ++ " " ++
    posting.asset ++ ": " ++ posting.source ++ " → " ++ posting.destination)

/-- The section on metadata, left out if there are none. -/
def metadataRows (metadata : Metadata) : List Text :=
  if metadata.isEmpty then []
  else divider :: row (" Metadata (" ++ Decimal.ofNat metadata.length ++ "):") ::
    metadata.map fun (key, value) => row ("   " ++ key.shown ++ ": " ++ value.quoted)

/-- The line with the reference, left out if there is none. -/
def referenceRows (reference : Data) : List Text :=
  if reference.isPresent then [row ("   reference : " ++ reference.shown)] else []

/-- The lines of the box without its lower edge, under a given number. -/
def body (number : Text) (tx : Transaction) : List Text :=
  [[], top, row (" Transaction #" ++ number), divider, timeRow tx.timestamp] ++
    referenceRows tx.reference ++
    [divider, row (" Postings (" ++ Decimal.ofNat tx.postings.length ++ "):")] ++
    tx.postings.mapIdx (fun index posting => postingRow posting index) ++
    metadataRows tx.metadata

/-- The receipt under a given number. -/
def textUnder (number : Text) (tx : Transaction) : Text :=
  Text.join "\n" (body number tx ++ [bottom])

/-- The numbers that a receipt writes out: the amounts and what the metadata hold. -/
def numbers (tx : Transaction) : List Int :=
  tx.postings.map (fun posting => (posting.amount : Int)) ++
    tx.metadata.flatMap fun (key, value) => key.numbers ++ value.numbers

/-- The receipt under a given number. A reference that is there must be a text. -/
def written (number : Text) (tx : Transaction) : Except Fault Text := do
  if tx.reference.isPresent && tx.reference.asText?.isNone then throw .wrongKind
  Decimal.writing (numbers tx) (textUnder number tx)

/-- The receipt of a transaction. -/
def ofTransaction (tx : Transaction) : Except Fault Text := written (Decimal.ofInt tx.id) tx

/-- The receipt with a note on the ledger that the transaction was committed on. -/
def committedText (tx : Transaction) (ledger : Text) : Text :=
  Text.join "\n"
    (body (Decimal.ofInt tx.id) tx ++ [divider, row (" ✓ COMMITTED on " ++ ledger), bottom])

end Receipt

end DoubleEntry
