/-!
# Tables of character ranges

A class of characters is given by the ascending ranges of its code points.
-/

namespace DoubleEntry

/-- Ascending, disjoint ranges of code points, both ends included. -/
abbrev RangeTable := List (Nat × Nat)

namespace RangeTable

/-- The first code point of the range that holds `n`. The search stops at the
first range that begins beyond `n`. -/
def start? : RangeTable → Nat → Option Nat
  | [], _ => none
  | (lo, hi) :: rest, n =>
    if n < lo then none
    else if n ≤ hi then some lo
    else start? rest n

/-- Whether some range holds `n`. -/
def contains (table : RangeTable) (n : Nat) : Bool :=
  (start? table n).isSome

theorem start?_le {table : RangeTable} {n lo : Nat} (h : start? table n = some lo) : lo ≤ n := by
  induction table with
  | nil => simp [start?] at h
  | cons range rest ih =>
    simp only [start?] at h
    split at h
    · simp at h
    · split at h
      · simp only [Option.some.injEq] at h; omega
      · exact ih h

end RangeTable

end DoubleEntry
