import DoubleEntry.Number.Decimal
import DoubleEntry.Text.Blank
import DoubleEntry.Text.Word

/-!
# Kinds of characters

Words, digits and blanks do not share a character, and the numerals of natural numbers
are made of digits.
-/

namespace DoubleEntry

namespace RangeTable

/-- The numbers in the ranges of a table. -/
def numbers (table : RangeTable) : List Nat :=
  table.flatMap fun (lo, hi) => List.range' lo (hi + 1 - lo)

theorem mem_numbers {table : RangeTable} {n : Nat} (h : contains table n = true) :
    n ∈ numbers table := by
  induction table with
  | nil => cases h
  | cons range rest ih =>
      rw [contains, start?] at h
      rw [numbers, List.flatMap_cons, List.mem_append, List.mem_range'_1]
      split at h
      · cases h
      · split at h
        · left
          omega
        · exact Or.inr (ih h)

theorem contains_of_first {lo hi n : Nat} (low : lo ≤ n) (high : n ≤ hi) (rest : RangeTable) :
    contains ((lo, hi) :: rest) n = true := by
  rw [contains, start?, if_neg (by omega), if_pos high]
  rfl

end RangeTable

/-- No number of a blank is that of a word character or of a digit. -/
theorem blankTable_apart :
    ∀ n ∈ blankTable.numbers,
      wordTable.contains n = false ∧ decimalDigitTable.contains n = false := by
  decide +kernel

theorem isDecimalDigit_eq (c : CodePoint) :
    isDecimalDigit c = decimalDigitTable.contains c.toNat := by
  rw [isDecimalDigit, digitValue?, Option.isSome_map, RangeTable.contains]

section Blank

variable {c : CodePoint} (h : isBlank c = true)
include h

theorem isWordChar_of_isBlank : isWordChar c = false :=
  (blankTable_apart _ (RangeTable.mem_numbers h)).1

theorem isDecimalDigit_of_isBlank : isDecimalDigit c = false := by
  rw [isDecimalDigit_eq]
  exact (blankTable_apart _ (RangeTable.mem_numbers h)).2

theorem ne_of_isBlank {other : CodePoint} (solid : isBlank other = false) : c ≠ other := by
  rintro rfl
  rw [h] at solid
  cases solid

end Blank

theorem isBlank_of_isWordChar {c : CodePoint} (h : isWordChar c = true) : isBlank c = false := by
  refine Bool.eq_false_iff.mpr fun blank => ?_
  rw [isWordChar_of_isBlank blank] at h
  cases h

theorem isBlank_of_isDecimalDigit {c : CodePoint} (h : isDecimalDigit c = true) :
    isBlank c = false := by
  refine Bool.eq_false_iff.mpr fun blank => ?_
  rw [isDecimalDigit_of_isBlank blank] at h
  cases h

namespace Decimal

theorem ofNat_ne_nil (n : Nat) : ofNat n ≠ [] := by
  intro empty
  have none := List.map_eq_nil_iff.mp empty
  exact Nat.toDigits_ne_nil none

/-- Whether a character is one of the figures from zero to nine, with which numerals are
written. -/
def IsFigure (c : CodePoint) : Prop := ∃ figure : Char, figure.isDigit = true ∧ c = .char figure

theorem IsFigure.isDecimalDigit {c : CodePoint} (figure : IsFigure c) : isDecimalDigit c = true := by
  obtain ⟨figure, inside, rfl⟩ := figure
  rw [Char.isDigit, Bool.and_eq_true, decide_eq_true_eq, decide_eq_true_eq] at inside
  rw [isDecimalDigit_eq]
  exact RangeTable.contains_of_first inside.1 inside.2 _

theorem isFigure_of_mem_ofNat {n : Nat} {c : CodePoint} (mem : c ∈ ofNat n) : IsFigure c := by
  obtain ⟨figure, listed, rfl⟩ := List.mem_map.mp mem
  exact ⟨figure, Nat.isDigit_of_mem_toDigits (by decide) (by decide) listed, rfl⟩

theorem isDecimalDigit_of_mem_ofNat {n : Nat} {c : CodePoint} (h : c ∈ ofNat n) :
    isDecimalDigit c = true := (isFigure_of_mem_ofNat h).isDecimalDigit

/-- A character that is no digit, such as a sign, stands in no numeral of a natural number. -/
theorem notMem_ofNat {c : CodePoint} (foreign : isDecimalDigit c = false) (n : Nat) :
    c ∉ ofNat n := by
  intro mem
  rw [isDecimalDigit_of_mem_ofNat mem] at foreign
  cases foreign

end Decimal

end DoubleEntry
