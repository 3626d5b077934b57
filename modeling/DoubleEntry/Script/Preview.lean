import DoubleEntry.Address.Basic
import DoubleEntry.Script.Note

/-!
# Previews

A preview pulls out of any text what looks like postings, for a diagram. It checks
nothing and never fails. Sends with one source are recognised first; only if there
is none, the first source and the first destination of anything like a send are
taken.
-/

namespace DoubleEntry

/-- A movement to draw, the amount in words and the addresses without their sigils. -/
structure PreviewPosting where
  amount : Text
  source : Text
  destination : Text
  deriving DecidableEq

namespace Preview

/-- The word that begins a send, and its literal without the brackets. -/
def sendHead : Reader Text := do
  Reader.word "send"
  Reader.gap
  Script.bracketed

/-- A send up to its only source: the literal and the source. -/
def sourceHead : Reader (Text × Text) := do
  let amount ← sendHead
  Reader.blanks
  let _ ← Reader.char (· = '(')
  Reader.blanks
  Script.clauseHead "source"
  let source ← Script.address
  return (amount, source)

/-- The word that a destination clause begins with, after blanks. -/
def destinationHead : Reader Unit := do
  Reader.gap
  Script.clauseHead "destination"

/-- What follows the source: possibly a grant of an overdraft, then the rest. -/
def afterGrant {α : Type} (rest : Reader α) : Reader α :=
  (do
    Reader.gap
    Reader.word "allowing"
    let (_, v) ← Reader.upTo1 (· ≠ ')') rest
    return v) <|> rest

/-- Blanks and the closing parenthesis of a send. -/
def sendEnd : Reader Unit := do
  Reader.blanks
  let _ ← Reader.char (· = ')')

/-- A send from one account to one account. -/
def simpleSend : Reader (Text × Text × Text) := do
  let (amount, source) ← sourceHead
  let destination ← afterGrant do
    destinationHead
    let destination ← Script.address
    sendEnd
    return destination
  return (amount, source, destination)

/-- A send from one account to a block of destinations; the block is kept as text. -/
def splitSend : Reader (Text × Text × Text) := do
  let (amount, source) ← sourceHead
  let block ← afterGrant do
    destinationHead
    let block ← Reader.enclosed1 '{' '}'
    sendEnd
    return block
  return (amount, source, block)

/-- A destination in a block, with its portion. -/
def splitItem : Reader (Option Text × Text) := do
  let portion ← Reader.optional do
    let portion ← Script.portion
    Reader.gap
    Reader.word "to"
    Reader.gap
    return portion
  let destination ← Script.address
  return (portion, destination)

/-- Whether a character can stand between an equals sign and the first entry of a
block. -/
def isBlockLead (c : CodePoint) : Bool := c = '{' || isBlank c

/-- A clause name, an equals sign and what leads into its first entry. -/
def looseHead (name : Text) : Reader Unit := do
  Reader.word name
  Reader.blanks
  let _ ← Reader.char (· = '=')
  let _ ← Reader.many isBlockLead

/-- A share in front of a destination, in any spelling. -/
def looseShare : Reader Unit := do
  (do let _ ← Reader.many1 fun c => isDecimalDigit c || c = '.' || c = '/' || c = '%') <|>
    Reader.word Script.remainingWord
  Reader.gap
  let _ ← Reader.optional do
    Reader.word "to"
    Reader.gap

/-- The first destination after any characters that do not end a send. -/
def looseDestination : Reader Text := do
  let (_, destination) ← Reader.upTo (· ≠ ')') do
    looseHead "destination"
    let _ ← Reader.optional looseShare
    Script.address
  return destination

/-- The first source, as long as a destination allows, and that destination. -/
def looseSource : Reader (Text × Text) := do
  looseHead "source"
  let _ ← Reader.optional do
    Reader.word "max"
    Reader.gap
    let _ ← Script.bracketed
    Reader.gap
    Reader.word "from"
    Reader.gap
  let _ ← Reader.char (· = '@')
  fun t => Reader.longestBefore looseDestination (t.takeWhile Script.isAddressChar).length t

/-- Anything like a send: its literal, its first source and its first destination. -/
def looseSend : Reader (Text × Text × Text) := do
  let amount ← sendHead
  let (_, source, destination) ← Reader.upTo (· ≠ ')') looseSource
  return (amount, '@' :: source, destination)

/-- The posting of a send with one destination. -/
def posting (found : Text × Text × Text) : PreviewPosting :=
  let (amount, source, destination) := found
  { amount := amount.strip
    source := Address.bare source
    destination := Address.bare destination }

/-- The postings of a send with a block, one for each destination in it. -/
def splitPostings (found : Text × Text × Text) : List PreviewPosting :=
  let (amount, source, block) := found
  (Search.all Search.anywhere splitItem block).map fun item =>
    let (portion, destination) := item.value
    { amount := match portion with
        | some portion => portion ++ " of " ++ amount.strip
        | none => amount.strip
      source := Address.bare source
      destination := Address.bare destination }

/-- The postings that a text seems to describe, in the order of the sends. -/
def postings (script : Text) : List PreviewPosting :=
  let search := Search.all Search.anywhere
  let simple := (search simpleSend script).map fun found => (found.start, posting found.value)
  let split := (search splitSend script).flatMap fun found =>
    (splitPostings found.value).map fun p => (found.start, p)
  let strict := simple ++ split
  let found :=
    if strict.isEmpty then
      (search looseSend script).map fun found => (found.start, posting found.value)
    else strict
  (found.mergeSort fun a b => a.1 ≤ b.1).map Prod.snd

/-- The keys under which a script notes something on its transaction. -/
def transactionKeys (script : Text) : List Text :=
  (Search.all Search.anywhere (do
    Note.callHead "set_tx_meta"
    Note.key) script).map Found.value

/-- The keys under which a script notes something on accounts. -/
def accountKeys (script : Text) : List Text :=
  (Search.all Search.anywhere (do
    Reader.word "set_account_meta"
    Reader.blanks
    let _ ← Reader.char (· = '(')
    let _ ← Reader.many1 (· ≠ ',')
    let _ ← Reader.char (· = ',')
    Reader.blanks
    Note.key) script).map Found.value

end Preview

end DoubleEntry
