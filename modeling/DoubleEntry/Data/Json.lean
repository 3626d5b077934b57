import DoubleEntry.Data.Basic

/-!
# Reading JSON

A reader of JSON texts. Whole numbers are kept exactly, all others become the
nearest double. A key that occurs twice in an object keeps its first place and
takes its last value. `NaN`, `Infinity` and `-Infinity` are read as doubles.
-/

namespace DoubleEntry

namespace Json

/-- Why a text is no JSON value. -/
inductive Refusal where
  | malformed
  | tooManyDigits (count : Nat)
  deriving DecidableEq

/-- Blanks of the format. -/
def isSpace (c : CodePoint) : Bool := c = ' ' || c = '\t' || c = '\n' || c = '\r'

def skipSpace (t : Text) : Text := t.dropWhile isSpace

/-- The value of a hexadecimal digit. -/
def hexDigit? : CodePoint → Option Nat
  | .char x =>
    if '0' ≤ x && x ≤ '9' then some (x.toNat - '0'.toNat)
    else if 'a' ≤ x && x ≤ 'f' then some (x.toNat - 'a'.toNat + 10)
    else if 'A' ≤ x && x ≤ 'F' then some (x.toNat - 'A'.toNat + 10)
    else none
  | .half _ => none

/-- The value of four hexadecimal digits. -/
def hexQuad? : Text → Option (Nat × Text)
  | a :: b :: c :: d :: rest => do
    let a ← hexDigit? a
    let b ← hexDigit? b
    let c ← hexDigit? c
    let d ← hexDigit? d
    return (((a * 16 + b) * 16 + c) * 16 + d, rest)
  | _ => none

/-- The code point after `\u`, two such escapes if they form a pair. -/
def unicodeEscape? (t : Text) : Option (CodePoint × Text) := do
  let (first, rest) ← hexQuad? t
  if CodePoint.isHigh first then
    match rest with
    | .char '\\' :: .char 'u' :: more =>
      let (second, after) ← hexQuad? more
      if CodePoint.isLow second then return (CodePoint.ofPair first second, after)
      else return (CodePoint.ofNat first, rest)
    | _ => return (CodePoint.ofNat first, rest)
  else return (CodePoint.ofNat first, rest)

/-- The code point after a backslash. -/
def escape? : Text → Option (CodePoint × Text)
  | .char '"' :: rest => some ('"', rest)
  | .char '\\' :: rest => some ('\\', rest)
  | .char '/' :: rest => some ('/', rest)
  | .char 'b' :: rest => some ('\x08', rest)
  | .char 'f' :: rest => some ('\x0c', rest)
  | .char 'n' :: rest => some ('\n', rest)
  | .char 'r' :: rest => some ('\r', rest)
  | .char 't' :: rest => some ('\t', rest)
  | .char 'u' :: rest => unicodeEscape? rest
  | _ => none

/-- The characters up to the closing quote. Each round takes at least one
character, so a fuel of the text's length is enough. -/
def stringBody : Nat → Text → Text → Except Refusal (Text × Text)
  | 0, _, _ => .error .malformed
  | fuel + 1, read, t =>
    match t with
    | [] => .error .malformed
    | .char '"' :: rest => .ok (read.reverse, rest)
    | .char '\\' :: rest =>
      match escape? rest with
      | some (c, after) => stringBody fuel (c :: read) after
      | none => .error .malformed
    | c :: rest =>
      if c.toNat < 0x20 then .error .malformed else stringBody fuel (c :: read) rest

/-- The text after an opening quote. -/
def string (t : Text) : Except Refusal (Text × Text) := stringBody (t.length + 1) [] t

/-- Digits of the format. -/
def isAsciiDigit : CodePoint → Bool
  | .char c => '0' ≤ c && c ≤ '9'
  | .half _ => false

/-- A fraction: a point and at least one digit, or nothing. -/
def fraction (t : Text) : Text × Text :=
  match t with
  | .char '.' :: rest =>
    let digits := rest.takeWhile isAsciiDigit
    if digits.isEmpty then ([], t) else (digits, rest.dropWhile isAsciiDigit)
  | _ => ([], t)

/-- An exponent: a mark, an optional sign and at least one digit, or nothing. -/
def exponent? (t : Text) : Option Int × Text :=
  match t with
  | mark :: rest =>
    if mark = 'e' || mark = 'E' then
      let (negative, body) := match rest with
        | .char '-' :: more => (true, more)
        | .char '+' :: more => (false, more)
        | more => (false, more)
      let digits := body.takeWhile isAsciiDigit
      if digits.isEmpty then (none, t)
      else
        let n : Int := Decimal.value digits
        (some (if negative then -n else n), body.dropWhile isAsciiDigit)
    else (none, t)
  | [] => (none, t)

/-- A number, its sign having been read. -/
def number (negative : Bool) (t : Text) : Except Refusal (Data × Text) :=
  let (whole, rest) : Text × Text := match t with
    | .char '0' :: more => (['0'], more)
    | _ => (t.takeWhile isAsciiDigit, t.dropWhile isAsciiDigit)
  if whole.isEmpty then .error .malformed
  else
    let (decimals, afterPoint) := fraction rest
    let (power, after) := exponent? afterPoint
    if decimals.isEmpty && power.isNone then
      if Decimal.digitLimit < whole.length then .error (.tooManyDigits whole.length)
      else
        let n : Int := Decimal.value whole
        .ok (.int (if negative then -n else n), after)
    else
      let x := Double.ofDecimal negative (Decimal.value (whole ++ decimals))
        (power.getD 0 - decimals.length)
      .ok (.double x, after)

/-- The rest of a text after a fixed word. -/
def afterWord? (word t : Text) : Option Text :=
  if word.isPrefixOf t then some (t.drop word.length) else none

/-- A value that is one word. -/
def word (w : Text) (value : Data) (t : Text) : Except Refusal (Data × Text) :=
  match afterWord? w t with
  | some rest => .ok (value, rest)
  | none => .error .malformed

mutual

/-- Read one value. The fuel bounds the depth and the number of items together;
the text's length is enough, since every round takes at least one character. -/
def value : Nat → Text → Except Refusal (Data × Text)
  | 0, _ => .error .malformed
  | fuel + 1, t =>
    match t with
    | .char '"' :: rest => do
      let (s, after) ← string rest
      return (.text s, after)
    | .char '{' :: rest =>
      match skipSpace rest with
      | .char '}' :: after => .ok (.object [], after)
      | more => do
        let (fields, after) ← fields fuel [] more
        return (.object (Entries.ofPairs fields), after)
    | .char '[' :: rest =>
      match skipSpace rest with
      | .char ']' :: after => .ok (.list [], after)
      | more => do
        let (items, after) ← items fuel [] more
        return (.list items, after)
    | .char 'n' :: _ => word "null" .null t
    | .char 't' :: _ => word "true" (.bool true) t
    | .char 'f' :: _ => word "false" (.bool false) t
    | .char 'N' :: _ => word "NaN" (.double .notANumber) t
    | .char 'I' :: _ => word "Infinity" (.double (.infinite false)) t
    | .char '-' :: .char 'I' :: rest => word "Infinity" (.double (.infinite true)) ('I' :: rest)
    | .char '-' :: rest => number true rest
    | _ => number false t

/-- The fields of an object up to its closing brace, collected in reverse. -/
def fields : Nat → List (Text × Data) → Text → Except Refusal (List (Text × Data) × Text)
  | 0, _, _ => .error .malformed
  | fuel + 1, read, t =>
    match t with
    | .char '"' :: rest => do
      let (key, afterKey) ← string rest
      match skipSpace afterKey with
      | .char ':' :: more => do
        let (v, after) ← value fuel (skipSpace more)
        let read := (key, v) :: read
        match skipSpace after with
        | .char ',' :: more => fields fuel read (skipSpace more)
        | .char '}' :: more => return (read.reverse, more)
        | _ => .error .malformed
      | _ => .error .malformed
    | _ => .error .malformed

/-- The items of a list up to its closing bracket, collected in reverse. -/
def items : Nat → List Data → Text → Except Refusal (List Data × Text)
  | 0, _, _ => .error .malformed
  | fuel + 1, read, t => do
    let (v, after) ← value fuel t
    let read := v :: read
    match skipSpace after with
    | .char ',' :: more => items fuel read (skipSpace more)
    | .char ']' :: more => return (read.reverse, more)
    | _ => .error .malformed

end

/-- Read a whole text as one value. -/
def ofText (t : Text) : Except Refusal Data := do
  let (v, rest) ← value (t.length + 1) (skipSpace t)
  if (skipSpace rest).isEmpty then return v else .error .malformed

end Json

end DoubleEntry
