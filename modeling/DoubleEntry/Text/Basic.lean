import DoubleEntry.Text.CodePoint

/-!
# Text

Every text of the library is a list of code points, so that a length is a count
of code points and a reader can take its input apart by pattern matching. String
literals are written directly where a text is expected.
-/

namespace DoubleEntry

/-- A text is the list of its code points. -/
abbrev Text := List CodePoint

instance : Coe String Text := ⟨fun s => s.toList.map CodePoint.char⟩

namespace Text

/-- A text as a string. -/
def toString (t : Text) : String := String.ofList (t.map CodePoint.toChar)

/-- The pieces of a text between the occurrences of one separating character;
there is always one piece more than there are separators. -/
def pieces (separator : CodePoint) : Text → List Text
  | [] => [[]]
  | c :: rest =>
    if c = separator then [] :: pieces separator rest
    else match pieces separator rest with
      | [] => [[c]]
      | first :: others => (c :: first) :: others

theorem pieces_ne_nil (separator : CodePoint) (t : Text) : pieces separator t ≠ [] := by
  cases t with
  | nil => simp [pieces]
  | cons c rest =>
    unfold pieces
    split
    · simp
    · split <;> simp

/-- Joining with one separator between neighbouring pieces. -/
def join (separator : Text) : List Text → Text
  | [] => []
  | [piece] => piece
  | piece :: next :: rest => piece ++ separator ++ join separator (next :: rest)

theorem join_pieces (separator : CodePoint) (t : Text) :
    join [separator] (pieces separator t) = t := by
  induction t with
  | nil => rfl
  | cons c rest ih =>
    unfold pieces
    split
    · next h =>
      cases hs : pieces separator rest with
      | nil => exact absurd hs (pieces_ne_nil separator rest)
      | cons first others => rw [hs] at ih; simp [join, ih, h]
    · split
      · next hs => exact absurd hs (pieces_ne_nil separator rest)
      · next first others hs =>
        rw [hs] at ih
        cases others with
        | nil => simpa [join] using ih
        | cons next more => simpa [join] using ih

/-- Whether one text occurs inside another. -/
def occursIn (part : Text) : Text → Bool
  | [] => part.isEmpty
  | c :: rest => part.isPrefixOf (c :: rest) || occursIn part rest

/-- Whether a text comes before another in the order of the numbers of their code
points, or is the same. -/
def isUpTo : Text → Text → Bool
  | [], _ => true
  | _ :: _, [] => false
  | a :: s, b :: t => a.toNat < b.toNat || (a = b && isUpTo s t)

/-- A text between two delimiters. -/
def enclosed (opening closing : CodePoint) (inner : Text) : Text := opening :: inner ++ [closing]

/-- A row of spaces. -/
def spaces (count : Nat) : Text := List.replicate count ' '

/-- Filling up with blanks on the right to a given width. -/
def padRight (width : Nat) (t : Text) : Text :=
  t ++ spaces (width - t.length)

/-- Filling up with blanks on the left to a given width. -/
def padLeft (width : Nat) (t : Text) : Text :=
  spaces (width - t.length) ++ t

theorem length_padRight (width : Nat) (t : Text) :
    (padRight width t).length = max width t.length := by
  simp [padRight, spaces]
  omega

end Text

end DoubleEntry
