/-!
# Code points

A text is made of code points. Nearly all of them are characters; the others are the
halves of surrogate pairs, which an escape can name on their own. No two code points
have the same number.
-/

namespace DoubleEntry

/-- A character, or one of the 2048 halves of surrogate pairs, given by its place
among them. -/
inductive CodePoint where
  | char (value : Char)
  | half (place : Fin 2048)
  deriving DecidableEq

instance : Coe Char CodePoint := ⟨CodePoint.char⟩

namespace CodePoint

/-- The number of the first half. -/
def firstHalf : Nat := 0xD800

/-- The number of a code point. -/
def toNat : CodePoint → Nat
  | char c => c.toNat
  | half place => firstHalf + place

/-- The code point with a number. -/
def ofNat (n : Nat) : CodePoint :=
  if h : firstHalf ≤ n ∧ n - firstHalf < 2048 then half ⟨n - firstHalf, h.2⟩
  else char (Char.ofNat n)

/-- Every number below the end of the code space is the number of its code point. -/
theorem toNat_ofNat {n : Nat} (h : n < 0x110000) : (ofNat n).toNat = n := by
  unfold ofNat
  split
  · next inside =>
    simp only [toNat]
    omega
  · next outside =>
    have valid : n.isValidChar := by
      simp only [Nat.isValidChar, firstHalf] at outside ⊢
      omega
    rw [toNat, Char.ofNat, dif_pos valid]
    rfl

/-- A code point is found again by its number. -/
@[simp] theorem ofNat_toNat (p : CodePoint) : ofNat p.toNat = p := by
  cases p with
  | char c =>
    have valid : c.toNat < 0xD800 ∨ (0xDFFF < c.toNat ∧ c.toNat < 0x110000) := c.valid
    rw [toNat, ofNat, dif_neg (by simp only [firstHalf]; omega), Char.ofNat_toNat]
  | half place =>
    have inside : firstHalf ≤ firstHalf + place ∧ firstHalf + place - firstHalf < 2048 :=
      ⟨Nat.le_add_right _ _, by rw [Nat.add_sub_cancel_left]; exact place.isLt⟩
    rw [toNat, ofNat, dif_pos inside]
    simp only [Nat.add_sub_cancel_left]

/-- Whether a number is the first half of a pair. -/
def isHigh (n : Nat) : Bool := 0xD800 ≤ n && n ≤ 0xDBFF

/-- Whether a number is the second half of a pair. -/
def isLow (n : Nat) : Bool := 0xDC00 ≤ n && n ≤ 0xDFFF

/-- The code point that a pair of halves stands for. -/
def ofPair (high low : Nat) : CodePoint :=
  ofNat (0x10000 + (high - 0xD800) * 0x400 + (low - 0xDC00))

/-- A code point as a character. The replacement character is shown for a half. -/
def toChar : CodePoint → Char
  | char c => c
  | half _ => '\uFFFD'

end CodePoint

end DoubleEntry
