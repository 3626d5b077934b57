import DoubleEntry.Data.Access
import DoubleEntry.Number.Integer
import DoubleEntry.Monetary
import DoubleEntry.Text.Word

/-!
# Variables and placeholders

A variable is bound to a text, a whole number or a monetary value. In a script it is
used through the placeholders `{name}` and `$name`. Those in braces are replaced
first, those with a dollar sign then, in what the first replacement left. A
placeholder without a value stays as it is. A value with a number that is too long to
be written cannot take the place of a placeholder.
-/

namespace DoubleEntry

/-- The values of variables as they are given. -/
abbrev Variables := Entries Text Data

/-- What a variable is bound to. The amount of a monetary value can be negative. -/
inductive Binding where
  | text (value : Text)
  | number (value : Int)
  | monetary (asset : Text) (amount : Int)
  deriving DecidableEq

/-- What the variables are bound to. -/
abbrev Bindings := Entries Text Binding

namespace Binding

/-- The amount that stands for everything. -/
def everything : Int := -1

/-- The whole number in an amount field. -/
def amountOf : Data → Except Fault Int
  | .int n => .ok n
  | .bool b => .ok (if b then 1 else 0)
  | .text t => match Integer.ofText t with
    | .ok n => .ok n
    | .error .notANumeral => .error (.notWhole t)
    | .error (.tooManyDigits count) => .error (.tooManyDigits count)
  | .double x => match x with
    | .notANumber => .error .wholePartOfNaN
    | .infinite _ => .error .wholePartOfInfinity
    | .finite _ _ _ => .ok (x.truncate?.getD 0)
  | .null | .list _ | .object _ => .error .wrongKind

/-- The binding of a variable to a value. An object with an asset and an amount is a
monetary value. -/
def ofData (name : Text) (value : Data) : Except Fault Binding :=
  match value with
  | .bool _ => .error (.booleanVariable name)
  | .text t => .ok (.text t)
  | .int n => .ok (.number n)
  | .object fields =>
    match Entries.get? fields "asset", Entries.get? fields "amount" with
    | some asset, some amount => do
      let asset ← asset.written
      return .monetary asset (← amountOf amount)
    | _, _ => .error (.unsupportedVariable name value)
  | _ => .error (.unsupportedVariable name value)

/-- The text of a binding, however long its numbers are. -/
def spelling : Binding → Text
  | .text value => value
  | .number value => Decimal.ofInt value
  | .monetary asset amount =>
    let quantity : Text := if amount = everything then "*" else Decimal.ofInt amount
    Text.enclosed '[' ']' (asset ++ " " ++ quantity)

/-- The numbers in the text of a binding. -/
def numbers : Binding → List Int
  | .text _ => []
  | .number value => [value]
  | .monetary _ amount => if amount = everything then [] else [amount]

/-- What a bound variable is replaced by. -/
def rendered (binding : Binding) : Except Fault Text :=
  Decimal.writing binding.numbers binding.spelling

end Binding

namespace Variables

/-- The variables that a value holds. Nothing at all counts as none; what is no object
has none to be asked for. -/
def ofData (value : Data) : Except Fault Variables :=
  if value.isPresent then
    match value with
    | .object fields => .ok fields
    | _ => .error .noFields
  else .ok []

/-- The bindings of all variables; the first that cannot be bound is at fault. -/
def bind (vars : Variables) : Except Fault Bindings :=
  vars.mapM fun (name, value) => (fun b => (name, b)) <$> Binding.ofData name value

end Variables

namespace Placeholder

/-- The name in a placeholder in braces. -/
def braced : Reader Text := do
  let _ ← Reader.char (· = '{')
  let name ← Reader.many1 isWordChar
  let _ ← Reader.char (· = '}')
  return name

/-- The name in a placeholder with a dollar sign. -/
def dollar : Reader Text := do
  let _ ← Reader.char (· = '$')
  Reader.many1 isWordChar

/-- What is put in the place of a placeholder, given the name in it. -/
def standIn (bindings : Bindings) (placeholder name : Text) : Except Fault Text :=
  match bindings.get? name with
  | some binding => binding.rendered
  | none => .ok placeholder

/-- A text with the placeholders of bound variables replaced. -/
def fill (bindings : Bindings) (t : Text) : Except Fault Text := do
  Search.replace dollar (standIn bindings) (← Search.replace braced (standIn bindings) t)

/-- A text with the placeholders of given variables replaced. -/
def substitute (vars : Variables) (t : Text) : Except Fault Text := do
  fill (← vars.bind) t

/-- As `substitute`, for a value of any kind. Without variables it stays as it is; with
variables only a text will do. -/
def substituteData (vars : Variables) (value : Data) : Except Fault Data := do
  let bindings ← vars.bind
  if bindings.isEmpty then return value
  return .text (← fill bindings (← value.textOr .wrongKind))

end Placeholder

end DoubleEntry
