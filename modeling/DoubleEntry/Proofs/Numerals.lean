import DoubleEntry.Proofs.Text.Characters

/-!
# Numerals

How long the numeral of a number is, what it is filled up with on the left, and that a number
can be told from its numeral.
-/

namespace DoubleEntry.Decimal

/-! ## The length of a numeral -/

theorem length_ofNat_le_iff {n width : Nat} (some_ : 0 < width) :
    (ofNat n).length ≤ width ↔ n < Nat.pow 10 width := by
  rw [ofNat, List.length_map]
  exact Nat.length_toDigits_le_iff (by decide) some_

theorem value_zeros (count : Nat) : value (zeros count) = 0 := by
  induction count with
  | zero => rfl
  | succ count ih =>
      have zero : value [.char '0'] = 0 := by decide +kernel
      have parts := value_append [.char '0'] (zeros count)
      rw [zero, ih, Nat.zero_mul] at parts
      exact parts

/-- A numeral that is filled up with zeros has the same value. -/
theorem value_zeroPadded (width n : Nat) : value (zeroPadded width n) = n := by
  rw [zeroPadded, value_append, value_zeros, Nat.zero_mul, Nat.zero_add, value_ofNat]

theorem length_zeroPadded {width n : Nat} (some_ : 0 < width) (within : n < Nat.pow 10 width) :
    (zeroPadded width n).length = width := by
  have short := (length_ofNat_le_iff some_).mpr within
  rw [zeroPadded, List.length_append, zeros, List.length_replicate]
  exact Nat.sub_add_cancel short

theorem isFigure_of_mem_zeroPadded {width n : Nat} {c : CodePoint}
    (mem : c ∈ zeroPadded width n) : IsFigure c := by
  rcases List.mem_append.mp mem with zero | digit
  · exact ⟨'0', rfl, List.eq_of_mem_replicate zero⟩
  · exact isFigure_of_mem_ofNat digit

/-! ## Telling numbers apart -/

theorem ofNat_injective {n m : Nat} (same : ofNat n = ofNat m) : n = m := by
  have values := congrArg value same
  rwa [value_ofNat, value_ofNat] at values

theorem ofInt_injective {n m : Int} (same : ofInt n = ofInt m) : n = m := by
  have unlike (a b : Nat) : .char '-' :: ofNat a ≠ ofNat b := fun begun =>
    notMem_ofNat (by decide +kernel) b (begun ▸ List.mem_cons_self)
  cases n with
  | ofNat a =>
      cases m with
      | ofNat b => exact congrArg Int.ofNat (ofNat_injective same)
      | negSucc b => exact absurd same.symm (unlike _ _)
  | negSucc a =>
      cases m with
      | ofNat b => exact absurd same (unlike _ _)
      | negSucc b =>
          have magnitudes := ofNat_injective (List.cons.inj same).2
          exact congrArg Int.negSucc (Nat.succ.inj magnitudes)

end DoubleEntry.Decimal
