import DoubleEntry.Monetary
import DoubleEntry.Script.Reference

/-!
# Sources

A source is an account that a send statement draws from. It may be capped, and it
may be allowed to go below zero. The sources of a block are drawn from in the order
in which they stand.
-/

namespace DoubleEntry

/-- Whether a source may go below zero. A limit is noted as it is written. -/
inductive Overdraft where
  | refused
  | granted (unbounded : Bool) (limit : Option Monetary)
  deriving DecidableEq

/-- An account to draw from. -/
structure Source where
  account : Text
  cap : Option Monetary
  overdraft : Overdraft
  deriving DecidableEq

namespace Overdraft

/-- Whether any overdraft is granted. -/
def isGranted : Overdraft → Bool
  | .refused => false
  | .granted _ _ => true

/-- Whether an overdraft without bounds is granted. -/
def isUnbounded : Overdraft → Bool
  | .granted unbounded _ => unbounded
  | .refused => false

/-- The limit that was noted. -/
def limit? : Overdraft → Option Monetary
  | .granted _ limit => limit
  | .refused => none

end Overdraft

namespace Source

/-- The word that begins every grant of an overdraft. -/
def grantWord : Text := "allowing"

/-- A grant: whether it is unbounded, and the literal of its limit. -/
def grant : Reader (Bool × Option Text) := do
  Reader.gap
  Reader.word grantWord
  Reader.gap
  let unbounded ← Reader.optional do
    Reader.word "unbounded"
    Reader.gap
  Reader.word "overdraft"
  let limit ← Reader.optional do
    Reader.gap
    Reader.word "up"
    Reader.gap
    Reader.word "to"
    Reader.gap
    Script.bracketed
  return (unbounded.isSome, limit)

/-- The parts of a source as they are written; the literals are kept without their
brackets. -/
structure Parts where
  cap : Option Text
  account : Text
  grant : Option (Bool × Option Text)

/-- The cap of a source. -/
def capClause : Reader Text := do
  Reader.word "max"
  Reader.gap
  let literal ← Script.bracketed
  Reader.gap
  Reader.word "from"
  Reader.gap
  return literal

/-- A source in a block. -/
def item : Reader Parts := do
  let cap ← Reader.optional capClause
  let account ← Script.accountRef
  let grant ← Reader.optional grant
  return { cap, account, grant }

/-- The value of an optional literal whose brackets were taken off. -/
def monetary? : Option Text → Except Fault (Option Monetary)
  | none => .ok none
  | some inner => some <$> Monetary.ofText (inner.enclosed '[' ']')

/-- The source that was written. Whoever uses the granting word anywhere, even inside
a name, is granted an overdraft. -/
def ofParts (written : Text) (parts : Parts) : Except Fault Source := do
  let cap ← monetary? parts.cap
  let limit ← monetary? (parts.grant.bind Prod.snd)
  let overdraft :=
    if Text.occursIn grantWord written then
      .granted (parts.grant.any Prod.fst) limit
    else .refused
  return { account := parts.account, cap, overdraft }

/-- Read the right side of a source clause: a block, or one account without a cap.
What cannot be read as a source is passed over. -/
def ofBlock (t : Text) : Except Fault (List Source) :=
  let block := t.strip
  if block.head? = some (.char '{') then
    (Search.all Search.anywhere item (Script.blockBody block)).mapM fun found =>
      ofParts found.text found.value
  else match Reader.withText item block with
    | some ((parts, written), _) =>
      if parts.cap.isSome then .ok [] else List.singleton <$> ofParts written parts
    | none => .ok []

/-- The text of the right side of a source clause. -/
def clause : Reader Text := do
  Script.clauseHead "source"
  Script.braceBlock <|> Prod.snd <$> Reader.withText (do
    let _ ← Script.accountRef
    Reader.optional grant)

end Source

end DoubleEntry
