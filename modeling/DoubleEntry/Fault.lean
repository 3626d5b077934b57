import DoubleEntry.Data.Display
import DoubleEntry.Moment

/-!
# Faults

A fault is the cause for which an operation is refused. What kind of refusal it
is, which code and details go with it, and how it is worded, is said here once for
all causes.
-/

namespace DoubleEntry

/-- The causes of refusal. -/
inductive Fault where
  /-- The part of an asset after its slash is not a precision. -/
  | badPrecision (asset : Text)
  /-- A text holds no monetary literal. -/
  | noLiteral (text : Text)
  /-- The amount of a monetary literal has too many digits. -/
  | amountTooLong (asset : Text) (digits : Nat)
  /-- A text holds no send statement. -/
  | noSend
  /-- A send statement has a word where its monetary literal should be. -/
  | unresolvedAmount (word : Text)
  /-- A send statement names no source. -/
  | noSource
  /-- A send statement names no destination. -/
  | noDestination
  /-- An account is referred to by a variable without a value. -/
  | unbound (reference : Text)
  /-- A portion is neither a percentage nor a fraction. -/
  | badPortion (portion : Text)
  /-- The portions add up to more than is there. -/
  | portionsExceed (total excess : Int)
  /-- A statement asks for everything an account holds. -/
  | everythingAsked (asset : Text)
  /-- A posting takes more from an account than it holds. -/
  | overdrawn (account asset : Text) (available required : Int)
  /-- All sources together hold less than is asked of them. The asset is as it was
  asked for. -/
  | shortfall (asset : Data) (missing : Int)
  /-- A configuration is no JSON text. -/
  | malformedConfiguration
  /-- A configuration is not an object. -/
  | configurationNotObject
  /-- The variables of a configuration are not an object. -/
  | variablesNotObject
  /-- A part of a configuration lacks a field. -/
  | missingField (place field : Text)
  /-- A field of a configuration is not a text. -/
  | fieldNotText (place field : Text)
  /-- A displayed account has an empty address. -/
  | emptyAddress
  /-- A displayed account has no known color. -/
  | unknownColor (color : Data)
  /-- A query is of no known type. -/
  | unknownQueryType (title queryType : Text)
  /-- A posting has no source. -/
  | emptySource
  /-- A posting has no destination. -/
  | emptyDestination
  /-- A posting has no asset. -/
  | emptyAsset
  /-- The amount of a posting is not a whole number. -/
  | amountNotWhole (amount : Data)
  /-- The amount of a posting is negative. -/
  | negativeAmount (amount : Int)
  /-- A variable is bound to a truth value. -/
  | booleanVariable (name : Text)
  /-- A variable is bound to a value that cannot stand in a script. -/
  | unsupportedVariable (name : Text) (value : Data)
  /-- A text is not a whole number. -/
  | notWhole (text : Text)
  /-- A numeral that is read has too many digits. -/
  | tooManyDigits (count : Nat)
  /-- A number to be written has too many digits. -/
  | unwritable
  /-- What is no number has no whole part. -/
  | wholePartOfNaN
  /-- An infinity has no whole part. -/
  | wholePartOfInfinity
  /-- An amount with a fraction is to be written with decimal places. -/
  | fractionalAmount
  /-- A power of ten is too large for a double. -/
  | beyondDouble
  /-- The day after the last day of the calendar is asked for. -/
  | calendarEnds
  /-- A clock is moved to an earlier time. -/
  | backwards (target current : Moment)
  /-- An item of a list of pairs does not have two parts. -/
  | notAPair (index length : Nat)
  /-- A value is of a kind that the operation cannot take. -/
  | wrongKind
  /-- A value without fields is asked for a field. -/
  | noFields
  /-- There is nothing at a place of a list. -/
  | noSuchPlace
  /-- The input ended. -/
  | inputEnded

namespace Fault

/-- The kinds of refusal, by what was at fault. -/
inductive Kind where
  | insufficientFunds
  | unreadableStatement
  | execution
  | unsupported
  | configuration
  | badValue
  | wrongKind
  | noFields
  | noSuchPlace
  | inputEnded
  | overflow
  deriving DecidableEq

def kind : Fault → Kind
  | badPrecision _ | noLiteral _ | amountTooLong _ _ | noSend | unresolvedAmount _
  | noSource | noDestination => .unreadableStatement
  | unbound _ | badPortion _ | portionsExceed _ _ => .execution
  | everythingAsked _ => .unsupported
  | overdrawn _ _ _ _ | shortfall _ _ => .insufficientFunds
  | malformedConfiguration | configurationNotObject | variablesNotObject
  | missingField _ _ | fieldNotText _ _ | emptyAddress | unknownColor _
  | unknownQueryType _ _ => .configuration
  | emptySource | emptyDestination | emptyAsset | amountNotWhole _ | negativeAmount _
  | booleanVariable _ | unsupportedVariable _ _ | notWhole _ | tooManyDigits _ | unwritable
  | wholePartOfNaN | fractionalAmount | backwards _ _ | notAPair _ _ => .badValue
  | wrongKind => .wrongKind
  | noFields => .noFields
  | noSuchPlace => .noSuchPlace
  | inputEnded => .inputEnded
  | wholePartOfInfinity | beyondDouble | calendarEnds => .overflow

/-- Whether a kind of refusal belongs to the ledger, its scripts and its
configurations. Only these are told apart by a code and carry details. -/
def Kind.isLedgerKind : Kind → Bool
  | .insufficientFunds | .unreadableStatement | .execution | .unsupported
  | .configuration => true
  | _ => false

/-- The numbers that the wording of a fault writes out. -/
def numbers : Fault → List Int
  | overdrawn _ _ available required => [available, required]
  | shortfall asset missing => asset.numbers ++ [missing]
  | portionsExceed total excess => [total, excess]
  | negativeAmount amount => [amount]
  | unsupportedVariable _ value => value.numbers
  | _ => []

/-- The fault that is reported: a fault whose numbers are too long to be written is
reported as just that. -/
def reported (fault : Fault) : Fault :=
  if fault.numbers.all Decimal.fits then fault else unwritable

/-- Whether a fault is reported as one of the ledger, its scripts or its
configurations. -/
def isLedgerFault (fault : Fault) : Bool := fault.reported.kind.isLedgerKind

/-- The code of a fault of the ledger. -/
def code? (fault : Fault) : Option Text :=
  match fault with
  | badPrecision _ => some "INVALID_ASSET"
  | _ => match fault.kind with
    | .insufficientFunds => some "INSUFFICIENT_FUNDS"
    | .unreadableStatement | .configuration => some "PARSE_ERROR"
    | .execution | .unsupported => some "EXECUTION_ERROR"
    | _ => none

/-- A whole number or a truth value of a detail is written out; any other value goes
as it is, but nothing at all is left out. -/
def detail (name : Text) : Data → Entries Text Data
  | .null => []
  | .int n => [(name, .text (Decimal.ofInt n))]
  | .bool b => [(name, .text (Data.bool b).shown)]
  | value => [(name, value)]

/-- The details that go with a fault. -/
def details : Fault → Entries Text Data
  | badPrecision asset => detail "asset" (.text asset)
  | amountTooLong asset digits => detail "asset" (.text asset) ++ detail "digits" (.int digits)
  | unbound reference => detail "variable" (.text (reference.drop 1))
  | portionsExceed total excess => detail "total" (.int total) ++ detail "excess" (.int excess)
  | everythingAsked asset => detail "asset" (.text asset)
  | overdrawn account asset available required =>
    detail "account" (.text account) ++ detail "asset" (.text asset) ++
      detail "available" (.int available) ++ detail "required" (.int required)
  | shortfall asset missing => detail "asset" asset ++ detail "required" (.int missing)
  | variablesNotObject => detail "field" (.text "variables")
  | missingField _ field | fieldNotText _ field => detail "field" (.text field)
  | unknownQueryType _ queryType => detail "queryType" (.text queryType)
  | _ => []

/-- The limit on numerals, as messages state it. -/
def limitText : Text :=
  "Exceeds the limit (" ++ Decimal.ofNat Decimal.digitLimit ++
    " digits) for integer string conversion"

/-- The advice that follows the limit on numerals. -/
def limitAdvice : Text := "; use sys.set_int_max_str_digits() to increase the limit"

/-- The longest quotation of a text that is not a whole number. -/
def quotationLimit : Nat := 200

/-- The wording of a fault. The kinds that name a misuse have none. -/
def message : Fault → Text
  | badPrecision asset => "Invalid asset precision: " ++ asset
  | noLiteral text => "Invalid monetary format: " ++ text
  | amountTooLong asset digits =>
    "Invalid monetary amount for " ++ asset ++ ": " ++ Decimal.ofNat digits ++ " digits"
  | noSend => "Invalid send statement: missing monetary value"
  | unresolvedAmount word => "Invalid send statement: unresolved monetary value " ++ word
  | noSource => "Invalid send statement: missing source"
  | noDestination => "Invalid send statement: missing destination"
  | unbound reference => "Unbound variable " ++ reference
  | badPortion portion => "Invalid portion: " ++ portion
  | portionsExceed total _ =>
    "Destination portions exceed send amount " ++ Decimal.ofInt total
  | everythingAsked _ => "Send all (*) is not supported by the executor"
  | overdrawn account _ available required =>
    "Insufficient funds in " ++ account ++ ": has " ++ Decimal.ofInt available ++
      ", needs " ++ Decimal.ofInt required
  | shortfall asset missing =>
    "Insufficient funds: need " ++ Decimal.ofInt missing ++ " more " ++ asset.shown
  | malformedConfiguration => "Invalid demo configuration JSON"
  | configurationNotObject => "Demo configuration must be an object"
  | variablesNotObject => "demo: 'variables' must be an object"
  | missingField place field => place ++ ": missing '" ++ field ++ "'"
  | fieldNotText place field => place ++ ": '" ++ field ++ "' must be a string"
  | emptyAddress => "account: Account address cannot be empty"
  | unknownColor color =>
    -- A color that is too long to be written is reported with the configuration all the same.
    if color.numbers.all Decimal.fits then "account: Unknown account color: " ++ color.shown
    else "account: " ++ limitText ++ limitAdvice
  | unknownQueryType title queryType =>
    "query '" ++ title ++ "': unknown queryType '" ++ queryType ++ "'"
  | emptySource => "Posting source cannot be empty"
  | emptyDestination => "Posting destination cannot be empty"
  | emptyAsset => "Posting asset cannot be empty"
  | amountNotWhole amount => "Posting amount must be int, got <class '" ++ amount.kindName ++ "'>"
  | negativeAmount amount => "Posting amount cannot be negative, got " ++ Decimal.ofInt amount
  | booleanVariable name => "Variable $" ++ name ++ ": booleans are not supported"
  | unsupportedVariable name value =>
    "Variable $" ++ name ++ ": unsupported value " ++ value.quoted
  | notWhole text =>
    "invalid literal for int() with base 10: " ++ text.quoted.take quotationLimit
  | tooManyDigits count =>
    limitText ++ ": value has " ++ Decimal.ofNat count ++ " digits" ++ limitAdvice
  | unwritable => limitText ++ limitAdvice
  | wholePartOfNaN => "cannot convert float NaN to integer"
  | wholePartOfInfinity => "cannot convert float infinity to integer"
  | fractionalAmount => "Unknown format code 'd' for object of type 'float'"
  | beyondDouble => "int too large to convert to float"
  | calendarEnds => "date value out of range"
  | backwards target current =>
    "Cannot move time backwards: " ++ target.shown ++ " < " ++ current.shown
  | notAPair index length =>
    "dictionary update sequence element #" ++ Decimal.ofNat index ++ " has length " ++
      Decimal.ofNat length ++ "; 2 is required"
  | wrongKind | noFields | noSuchPlace | inputEnded => []

end Fault

/-- A text that writes out numbers, unless one of them is too long to be written. -/
def Decimal.writing (numbers : List Int) (t : Text) : Except Fault Text :=
  if numbers.all Decimal.fits then .ok t else .error .unwritable

/-- A whole number in writing. -/
def Decimal.written (n : Int) : Except Fault Text := Decimal.writing [n] (Decimal.ofInt n)

/-- A value in writing, as it stands in running text. -/
def Data.written (value : Data) : Except Fault Text := Decimal.writing value.numbers value.shown

/-- A value in writing, with all texts in quotes. -/
def Data.quotation (value : Data) : Except Fault Text :=
  Decimal.writing value.numbers value.quoted

end DoubleEntry
