import DoubleEntry.Script.Reference

/-!
# Variable declarations

A block `vars { TYPE $name … }` declares the variables of a script. Only the first
block counts, and what is no declaration in it is passed over.
-/

namespace DoubleEntry

/-- The types of variables. -/
inductive VariableType where
  | monetary
  | account
  | asset
  | portion
  | number
  | string
  deriving DecidableEq

namespace VariableType

/-- The name of a type. -/
def name : VariableType → Text
  | monetary => "monetary"
  | account => "account"
  | asset => "asset"
  | portion => "portion"
  | number => "number"
  | string => "string"

/-- The types in the order in which a reader tries them. -/
def all : List VariableType := [monetary, account, asset, portion, number, string]

end VariableType

/-- A declared variable, without its dollar sign. -/
structure Declaration where
  type : VariableType
  name : Text
  deriving DecidableEq

namespace Declaration

/-- The name of a type. -/
def typeName : Reader VariableType :=
  VariableType.all.firstM fun type => do
    Reader.word type.name
    return type

/-- One declaration. -/
def item : Reader Declaration := do
  let type ← typeName
  Reader.gap
  let name ← Script.variableRef
  return { type, name := name.drop 1 }

/-- A block of declarations; the result is what stands between its braces. -/
def block : Reader Text := do
  Reader.word "vars"
  Reader.blanks
  Reader.enclosed1 '{' '}'

/-- The declarations of a script. -/
def all (script : Text) : List Declaration :=
  match Search.first? (Search.atWordStart isWordChar) block script with
  | some found => (Search.all Search.anywhere item found.value).map Found.value
  | none => []

end Declaration

end DoubleEntry
