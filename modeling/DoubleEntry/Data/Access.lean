import DoubleEntry.Fault

/-!
# Taking data values apart

How the parts of a value are reached whose kind is not known beforehand. A value of
the wrong kind can still answer whether it holds a key: a text by its parts, a list by
its items.
-/

namespace DoubleEntry

namespace Data

/-- Whether a value is a given text. -/
def isText (t : Text) : Data → Bool
  | .text other => other = t
  | _ => false

/-- The value under a key that must be there. What is no object may hold the key as a
part or an item, but has nothing under it. -/
def member? (value : Data) (key : Text) : Except Fault (Option Data) :=
  match value with
  | .object fields => .ok (Entries.get? fields key)
  | .text t => if Text.occursIn key t then .error .wrongKind else .ok none
  | .list items => if items.any (isText key) then .error .wrongKind else .ok none
  | _ => .error .wrongKind

/-- The value under a key, or a default. Only objects can be asked. -/
def memberOr (value : Data) (key : Text) (default : Data) : Except Fault Data :=
  match value with
  | .object fields => .ok ((Entries.get? fields key).getD default)
  | _ => .error .noFields

/-- The values that a value holds one after the other: the items of a list, the
characters of a text, the keys of an object. -/
def elements : Data → Except Fault (List Data)
  | .list items => .ok items
  | .text t => .ok (t.map fun c => .text [c])
  | .object fields => .ok (fields.map fun (key, _) => .text key)
  | _ => .error .wrongKind

/-- As `elements`, but a value that does not count as present holds none. -/
def sequence (value : Data) : Except Fault (List Data) :=
  if value.isPresent then value.elements else .ok []

/-- The text that a value must be. -/
def textOr (fault : Fault) : Data → Except Fault Text
  | .text t => .ok t
  | _ => .error fault

/-- The whole number that a value must be; a truth value counts as zero or one. -/
def whole : Data → Except Fault Int
  | .int n => .ok n
  | .bool b => .ok (if b then 1 else 0)
  | _ => .error .wrongKind

/-- A value as a key. What has parts cannot be one. -/
def asKey (value : Data) : Except Fault Data :=
  if value.isScalar then .ok value else .error .wrongKind

/-- The text under a key of a part of a configuration. -/
def textMember (place key : Text) (value : Data) : Except Fault Text := do
  match ← value.member? key with
  | none => throw (.missingField place key)
  | some (.text t) => return t
  | some _ => throw (.fieldNotText place key)

end Data

end DoubleEntry
