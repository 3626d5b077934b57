import DoubleEntry.Data.Json
import DoubleEntry.Demo.Query

/-!
# Demos

A demo is a configured walkthrough: the accounts to show, the values of variables, the
steps in order, each with a script and with queries worth asking after it, and queries
that do not belong to a step. What is only shown is kept as it is given.
-/

namespace DoubleEntry

/-- An account that a demo shows. Placeholders may stand in the address. -/
structure ShownAccount where
  address : Text
  name : Text
  description : Data
  color : Text

/-- One step of a demo. -/
structure Step where
  transactionType : Text
  label : Text
  description : Data
  script : Text
  queries : List Query

/-- A configured walkthrough. -/
structure Demo where
  id : Text
  name : Text
  description : Data
  accounts : List ShownAccount
  vars : Entries Text Data
  steps : List Step
  usefulQueries : List Query

namespace ShownAccount

/-- The colors that an account can be shown in. -/
def colors : List Text :=
  ["slate", "gray", "zinc", "red", "orange", "amber", "yellow", "lime", "green", "emerald",
    "teal", "cyan", "sky", "blue", "indigo", "violet", "purple", "fuchsia", "pink", "rose"]

/-- The color that a value names. Lists and objects cannot even be looked up. -/
def colorOfData (color : Data) : Except Fault Text :=
  match color with
  | .list _ | .object _ => .error .wrongKind
  | .text t => if colors.contains t then .ok t else .error (.unknownColor color)
  | _ => .error (.unknownColor color)

/-- Read an account. -/
def ofData (data : Data) : Except Fault ShownAccount := do
  let address ← data.textMember "account" "address"
  let name ← data.textMember "account" "name"
  let description ← data.memberOr "description" (.text [])
  let color ← data.memberOr "color" (.text "slate")
  if address.isEmpty then throw .emptyAddress
  return { address, name, description, color := ← colorOfData color }

end ShownAccount

namespace Step

/-- Read a step. Its label, whatever it is, tells messages where they are. -/
def ofData (data : Data) : Except Fault Step := do
  let label ← data.memberOr "label" (.text "?")
  let place : Text := "step '" ++ (← label.written) ++ "'"
  let transactionType ← data.textMember place "txType"
  let label ← data.textMember place "label"
  let description ← data.memberOr "description" (.text [])
  let script ← data.textMember place "numscript"
  let queries ← (← (← data.memberOr "queries" .null).sequence).mapM Query.ofData
  return { transactionType, label, description, script, queries }

end Step

namespace Demo

/-- The variables of a configuration; nothing at all counts as none. -/
def variablesOfData (value : Data) : Except Fault (Entries Text Data) :=
  if !value.isPresent then .ok []
  else match value with
    | .object fields => .ok fields
    | _ => .error .variablesNotObject

/-- Read a demo. -/
def ofData (data : Data) : Except Fault Demo := do
  match data with
  | .object _ =>
    let vars ← variablesOfData (← data.memberOr "variables" .null)
    let id ← data.textMember "demo" "id"
    let name ← data.textMember "demo" "name"
    let description ← data.memberOr "description" (.text [])
    let accounts ← (← (← data.memberOr "accounts" .null).sequence).mapM ShownAccount.ofData
    let steps ← (← (← data.memberOr "transactionSteps" .null).sequence).mapM Step.ofData
    let usefulQueries ← (← (← data.memberOr "usefulQueries" .null).sequence).mapM Query.ofData
    return { id, name, description, accounts, vars, steps, usefulQueries }
  | _ => throw .configurationNotObject

/-- Read a demo from a JSON text. -/
def ofJson (t : Text) : Except Fault Demo :=
  match Json.ofText t with
  | .ok data => ofData data
  | .error .malformed => .error .malformedConfiguration
  | .error (.tooManyDigits count) => .error (.tooManyDigits count)

end Demo

/-- The item at a place of a list; negative places count from the end. -/
def place? {α : Type} (items : List α) (index : Int) : Option α :=
  let i := if index < 0 then index + items.length else index
  if i < 0 then none else items[i.toNat]?

end DoubleEntry
