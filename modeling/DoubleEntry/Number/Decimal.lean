import DoubleEntry.Text.DecimalDigit

/-!
# Decimal numerals

Whole numbers are written without leading zeros. A numeral in a text may use the
digits of any script. No numeral of more than `digitLimit` digits is read or
written.
-/

namespace DoubleEntry

namespace Decimal

/-- The most digits that a numeral may have. -/
def digitLimit : Nat := 4300

/-- The digits of a natural number. -/
def ofNat (n : Nat) : Text := (Nat.toDigits 10 n).map CodePoint.char

/-- A whole number, with a sign in front if it is negative. -/
def ofInt : Int → Text
  | .ofNat n => ofNat n
  | .negSucc n => '-' :: ofNat (n + 1)

/-- Whether the numeral of a number stays within the limit. -/
def fits (n : Int) : Bool := n.natAbs < Nat.pow 10 digitLimit

/-- The value of a row of digits. -/
def value (digits : Text) : Nat :=
  digits.foldl (fun acc c => acc * 10 + digitValue c) 0

/-- A row of zeros. -/
def zeros (count : Nat) : Text := List.replicate count '0'

/-- A natural number written with at least `width` digits. -/
def zeroPadded (width n : Nat) : Text :=
  let digits := ofNat n
  zeros (width - digits.length) ++ digits

theorem value_append (a b : Text) :
    value (a ++ b) = value a * Nat.pow 10 b.length + value b := by
  have general (acc : Nat) (t : Text) :
      t.foldl (fun acc c => acc * 10 + digitValue c) acc =
        acc * Nat.pow 10 t.length + value t := by
    induction t generalizing acc with
    | nil => simp [value]
    | cons c rest ih =>
      simp only [value, List.foldl_cons, List.length_cons]
      rw [ih, ih (0 * 10 + digitValue c)]
      simp only [Nat.zero_mul, Nat.zero_add, Nat.add_mul, Nat.pow_eq, Nat.pow_succ, Nat.add_assoc]
      rw [Nat.mul_assoc, Nat.mul_comm 10]
  simp only [value, List.foldl_append]
  rw [general]
  rfl

theorem digitValue_digitChar {n : Nat} (h : n < 10) : digitValue (Nat.digitChar n) = n := by
  match n, h with
  | 0, _ | 1, _ | 2, _ | 3, _ | 4, _ | 5, _ | 6, _ | 7, _ | 8, _ | 9, _ => decide

/-- Reading the digits of a number gives the number back. -/
@[simp] theorem value_ofNat (n : Nat) : value (ofNat n) = n := by
  induction n using Nat.strongRecOn with
  | ind n ih =>
    unfold ofNat
    by_cases h : n < 10
    · rw [Nat.toDigits_of_lt_base h]
      simp [value, digitValue_digitChar h]
    · rw [Nat.toDigits_of_base_le (by decide) (by omega), List.map_append, value_append]
      have hd := ih (n / 10) (by omega)
      unfold ofNat at hd
      rw [hd]
      have hlt : n % 10 < 10 := Nat.mod_lt _ (by decide)
      simp [value, digitValue_digitChar hlt]
      omega

end Decimal

end DoubleEntry
