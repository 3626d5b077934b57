import DoubleEntry.Script.Reference

/-!
# Notes

A script can note texts under keys, on the transaction it makes or on accounts:
`set_tx_meta("key", VALUE)` and `set_account_meta(ACCOUNT, "key", VALUE)`. A value is
a quoted text, a variable, a bracketed literal, of which the brackets are dropped,
or a bare word.
-/

namespace DoubleEntry

/-- A text noted under a key. -/
inductive Note where
  | transaction (key value : Text)
  | account (account key value : Text)
  deriving DecidableEq

namespace Note

/-- Whether a character can stand in a bare value. -/
def isBareChar (c : CodePoint) : Bool := Script.isAddressChar c || c = '@' || c = '.'

/-- A value. -/
def value : Reader Text :=
  Reader.enclosed '"' '"' <|> Script.variableRef <|> Script.bracketed <|>
    Reader.many1 isBareChar

/-- A key in quotes. -/
def key : Reader Text := Reader.enclosed1 '"' '"'

/-- A comma with blanks around it. -/
def comma : Reader Unit := do
  Reader.blanks
  let _ ← Reader.char (· = ',')
  Reader.blanks

/-- A name and an opening parenthesis. -/
def callHead (name : Text) : Reader Unit := do
  Reader.word name
  Reader.blanks
  let _ ← Reader.char (· = '(')
  Reader.blanks

/-- The key, the value and the end of a call. -/
def keyAndValue : Reader (Text × Text) := do
  let key ← key
  comma
  let value ← value
  Reader.blanks
  let _ ← Reader.char (· = ')')
  return (key, value)

/-- A note on the transaction. -/
def transactionNote : Reader Note := do
  callHead "set_tx_meta"
  let (key, value) ← keyAndValue
  return .transaction key value

/-- A note on an account. -/
def accountNote : Reader Note := do
  callHead "set_account_meta"
  let account ← Script.accountRef
  comma
  let (key, value) ← keyAndValue
  return .account account key value

/-- All notes of a script in the order in which they begin. -/
def all (script : Text) : List Note :=
  let found := Search.all Search.anywhere transactionNote script ++
    Search.all Search.anywhere accountNote script
  (found.mergeSort fun a b => a.start ≤ b.start).map Found.value

end Note

end DoubleEntry
