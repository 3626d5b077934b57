import DoubleEntry.Script.Note
import DoubleEntry.Script.Declaration
import DoubleEntry.Script.Send

/-!
# Scripts

A script is read statement by statement. A send statement that cannot be read is
left out and reported as a failure; the others still count.
-/

namespace DoubleEntry

/-- A send statement that was left out, with its place in the script and the cause. -/
structure Failure where
  start : Nat
  stop : Nat
  text : Text
  cause : Fault

/-- A script that was read. -/
structure Script where
  declarations : List Declaration
  sends : List Send
  notes : List Note
  failures : List Failure

namespace Script

/-- A statement as it was read or as it failed. -/
def readStatement (found : Found Send.Parts) : Failure ⊕ Send :=
  match Send.ofText found.text with
  | .ok send => .inr send
  | .error cause => .inl { start := found.start, stop := found.stop, text := found.text, cause }

/-- Read a script. -/
def ofText (t : Text) : Script :=
  let statements := (Send.statements t).map readStatement
  { declarations := Declaration.all t
    sends := statements.filterMap Sum.getRight?
    notes := Note.all t
    failures := statements.filterMap Sum.getLeft? }

/-- What is wrong with a script, without running it: the statements that were left
out, a script without any statement, and sends without a source or a destination. -/
def problems (t : Text) : List Text :=
  let script := ofText t
  let unread : List Text :=
    script.failures.map fun failure => ("Parse error: " : Text) ++ failure.cause.message
  let empty : List Text :=
    if script.sends.isEmpty && script.failures.isEmpty then ["No send statements found"] else []
  let incomplete := script.sends.flatMap fun send =>
    (if send.sources.isEmpty then [("Send statement has no source" : Text)] else []) ++
      (if send.destinations.isEmpty then [("Send statement has no destination" : Text)] else [])
  unread ++ empty ++ incomplete

/-- Whether nothing is wrong with a script. -/
def isValid (t : Text) : Bool := (problems t).isEmpty

end Script

end DoubleEntry
