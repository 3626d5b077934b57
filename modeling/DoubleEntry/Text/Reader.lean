import DoubleEntry.Text.Blank

/-!
# Readers and searches

A reader takes a value off the front of a text or fails. A search tries one reader
at every place of a text, from left to right, and goes on behind each success.
-/

namespace DoubleEntry

/-- A reader takes a value off the front of a text, or fails. -/
abbrev Reader (α : Type) := StateT Text Option α

namespace Reader

variable {α β : Type}

/-- One code point that satisfies a test. -/
def char (test : CodePoint → Bool) : Reader CodePoint
  | [] => none
  | c :: rest => if test c then some (c, rest) else none

/-- A fixed text. -/
def word (w : Text) : Reader Unit := fun t =>
  if w.isPrefixOf t then some ((), t.drop w.length) else none

/-- All code points in front that satisfy a test. -/
def many (test : CodePoint → Bool) : Reader Text := fun t =>
  some (t.takeWhile test, t.dropWhile test)

/-- All code points in front that satisfy a test, at least one. -/
def many1 (test : CodePoint → Bool) : Reader Text := fun t =>
  match t.takeWhile test with
  | [] => none
  | c :: rest => some (c :: rest, t.dropWhile test)

/-- Any number of blanks. -/
def blanks : Reader Unit := do
  let _ ← many isBlank

/-- At least one blank. -/
def gap : Reader Unit := do
  let _ ← many1 isBlank

/-- What a reader takes, or nothing if it fails. -/
def optional (r : Reader α) : Reader (Option α) := some <$> r <|> pure none

/-- The characters between two delimiters, the second of which ends them. -/
def enclosed (opening closing : CodePoint) : Reader Text := do
  let _ ← char (· = opening)
  let inner ← many (· ≠ closing)
  let _ ← char (· = closing)
  return inner

/-- As `enclosed`, with at least one character inside. -/
def enclosed1 (opening closing : CodePoint) : Reader Text := do
  let _ ← char (· = opening)
  let inner ← many1 (· ≠ closing)
  let _ ← char (· = closing)
  return inner

/-- What a reader takes, together with the text it takes it from. -/
def withText (r : Reader α) : Reader (α × Text) := fun t =>
  match r t with
  | some (v, rest) => some ((v, t.take (t.length - rest.length)), rest)
  | none => none

/-- Pass over as few allowed characters as possible until a reader succeeds; the
result is what was passed over and what was read. -/
def upTo (allowed : CodePoint → Bool) (r : Reader α) : Reader (Text × α) := fun t =>
  match r t with
  | some (v, rest) => some (([], v), rest)
  | none => match t with
    | [] => none
    | c :: rest =>
      if allowed c then
        match upTo allowed r rest with
        | some ((passed, v), after) => some ((c :: passed, v), after)
        | none => none
      else none

/-- As `upTo`, passing over at least one character. -/
def upTo1 (allowed : CodePoint → Bool) (r : Reader α) : Reader (Text × α) := do
  let c ← char allowed
  let (passed, v) ← upTo allowed r
  return (c :: passed, v)

/-- The longest row of `count` or fewer characters, at least one, behind which a
reader succeeds. -/
def longestBefore (r : Reader α) : Nat → Reader (Text × α)
  | 0 => fun _ => none
  | count + 1 => fun t =>
    match r (t.drop (count + 1)) with
    | some (v, rest) => some ((t.take (count + 1), v), rest)
    | none => longestBefore r count t

@[simp] theorem char_cons (test : CodePoint → Bool) (c : CodePoint) (rest : Text) :
    char test (c :: rest) = if test c then some (c, rest) else none := rfl

@[simp] theorem char_nil (test : CodePoint → Bool) : char test [] = none := rfl

@[simp] theorem many_apply (test : CodePoint → Bool) (t : Text) :
    many test t = some (t.takeWhile test, t.dropWhile test) := rfl

theorem word_append (w rest : Text) : word w (w ++ rest) = some ((), rest) := by
  simp [word]

end Reader

/-! ## Searching -/

/-- A value found in a text, with the place where it begins and the text it was read
from. -/
structure Found (α : Type) where
  start : Nat
  text : Text
  value : α

namespace Found

/-- The place behind a found value. -/
def stop {α : Type} (found : Found α) : Nat := found.start + found.text.length

end Found

/-- What a search sees at a place: a code point on its own, or a value with the text
it was read from. -/
inductive Part (α : Type) where
  | plain (c : CodePoint)
  | hit (text : Text) (value : α)

namespace Part

/-- The text of a part. -/
def source {α : Type} : Part α → Text
  | .plain c => [c]
  | .hit text _ => text

/-- What a part becomes where values are replaced. A code point on its own is kept. -/
def rewrite {α ε : Type} (put : Text → α → Except ε Text) : Part α → Except ε Text
  | .plain c => .ok [c]
  | .hit text value => put text value

end Part

namespace Search

variable {α : Type}

/-- Where a reader may be tried, given the character before. -/
abbrev Gate := Option CodePoint → Bool

/-- Every place is open. -/
def anywhere : Gate := fun _ => true

/-- Only the places that do not stand inside or at the end of a word are open. -/
def atWordStart (isWord : CodePoint → Bool) : Gate := fun before => !before.any isWord

/-- Take a text apart into found values and the characters between them. A reader
that takes nothing counts as failing. -/
def parts (gate : Gate) (r : Reader α) (before : Option CodePoint) (t : Text) : List (Part α) :=
  match t with
  | [] => []
  | c :: rest =>
    match if gate before then r (c :: rest) else none with
    | some (v, after) =>
      if _shorter : after.length < (c :: rest).length then
        let text := (c :: rest).take ((c :: rest).length - after.length)
        .hit text v :: parts gate r text.getLast? after
      else .plain c :: parts gate r (some c) rest
    | none => .plain c :: parts gate r (some c) rest
termination_by t.length
decreasing_by
  · exact _shorter
  · simp
  · simp

/-- The found values among parts, with their places. -/
def located (start : Nat) : List (Part α) → List (Found α)
  | [] => []
  | .plain _ :: rest => located (start + 1) rest
  | .hit text v :: rest => ⟨start, text, v⟩ :: located (start + text.length) rest

/-- All values that a reader finds in a text. -/
def all (gate : Gate) (r : Reader α) (t : Text) : List (Found α) :=
  located 0 (parts gate r none t)

/-- The first value that a reader finds in a text. -/
def first? (gate : Gate) (r : Reader α) (t : Text) : Option (Found α) :=
  (all gate r t).head?

/-- Put other texts in the place of found values, from left to right, given the text that a
value was read from. Nothing comes of it if one of them is not to be had. -/
def replace {ε : Type} (r : Reader α) (put : Text → α → Except ε Text) (t : Text) :
    Except ε Text :=
  List.flatten <$> (parts anywhere r none t).mapM (Part.rewrite put)

end Search

end DoubleEntry
