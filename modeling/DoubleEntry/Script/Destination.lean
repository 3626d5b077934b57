import DoubleEntry.Fault
import DoubleEntry.Script.Reference

/-!
# Destinations

A destination takes a share of what is sent. A kept share stays with the sources.
-/

namespace DoubleEntry

/-- Who takes a share. -/
inductive Receiver where
  | account (reference : Text)
  | kept
  deriving DecidableEq

/-- A receiver and its portion, if one is given. -/
structure Destination where
  receiver : Receiver
  portion : Option Text
  deriving DecidableEq

namespace Destination

/-- The word for a share that stays. -/
def keptWord : Text := "kept"

/-- A receiver in a block. -/
def receiverRef : Reader Receiver :=
  Receiver.account <$> Script.accountRef <|> (do Reader.word keptWord; return .kept)

/-- A portion in front of a receiver, with or without the word between. -/
def portionClause : Reader Text := do
  let portion ← Script.portion
  Reader.gap
  let _ ← Reader.optional do
    Reader.word "to"
    Reader.gap
  return portion

/-- A destination in a block. -/
def item : Reader Destination := do
  let portion ← Reader.optional portionClause
  let receiver ← receiverRef
  return { receiver, portion }

/-- Read the right side of a destination clause: a block, or one account, which is
taken as it stands. -/
def ofBlock (t : Text) : List Destination :=
  let block := t.strip
  if block.head? = some (.char '{') then
    (Search.all Search.anywhere item (Script.blockBody block)).map Found.value
  else [{ receiver := .account block, portion := none }]

/-- The text of the right side of a destination clause. -/
def clause : Reader Text := do
  Script.clauseHead "destination"
  Script.braceBlock <|> Script.accountRef

end Destination

end DoubleEntry
