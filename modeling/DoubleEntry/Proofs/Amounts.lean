import DoubleEntry.Asset
import DoubleEntry.Proofs.Except
import DoubleEntry.Proofs.Faults
import DoubleEntry.Proofs.Numerals
import Mathlib.Algebra.Order.Ring.Int

/-!
# Formatted amounts

An amount as people read it is exact: the whole part, the decimal places and the sign make up
the amount again. So amounts of one asset that read alike are the same.
-/

namespace DoubleEntry.Asset

/-- The sign in front of an amount. -/
def sign (amount : Int) : Text := if amount < 0 then "-" else []

/-- What the decimal places and the whole part of an amount are multiplied with. -/
def signum (amount : Int) : Int := if amount < 0 then -1 else 1

theorem signum_mul_natAbs (amount : Int) : signum amount * amount.natAbs = amount := by
  unfold signum
  split <;> omega

/-! ## What is rendered -/

section Format

variable {asset code : Text} {precision : Nat} {amount : Int} (fit : Decimal.fits amount = true)
include fit

theorem fits_of_le_natAbs {n : Nat} (le : n ≤ amount.natAbs) : Decimal.fits n = true := by
  rw [Decimal.fits, decide_eq_true_eq] at fit
  exact (Decimal.fits_natCast n).mpr (Nat.lt_of_le_of_lt le fit)

theorem formatAmount_whole (read : ofText asset = .ok ⟨code, 0⟩) :
    formatAmount amount asset = .ok (Decimal.ofInt amount ++ " " ++ code) := by
  have whole := fits_of_le_natAbs fit (Nat.div_le_self amount.natAbs (Nat.pow 10 0))
  have fraction := fits_of_le_natAbs fit (Nat.mod_le amount.natAbs (Nat.pow 10 0))
  rw [formatAmount, read]
  refine bind_eq_ok.mpr ⟨_, rfl, ?_⟩
  dsimp only
  rw [whole, fraction]
  rfl

theorem formatAmount_places (read : ofText asset = .ok ⟨code, precision⟩) (some_ : 0 < precision) :
    formatAmount amount asset = .ok (sign amount ++ symbol code ++
      Decimal.ofNat (amount.natAbs / Nat.pow 10 precision) ++ "." ++
        Decimal.zeroPadded precision (amount.natAbs % Nat.pow 10 precision)) := by
  have whole := fits_of_le_natAbs fit (Nat.div_le_self amount.natAbs (Nat.pow 10 precision))
  have fraction := fits_of_le_natAbs fit (Nat.mod_le amount.natAbs (Nat.pow 10 precision))
  rw [formatAmount, read]
  refine bind_eq_ok.mpr ⟨_, rfl, ?_⟩
  dsimp only
  rw [whole, fraction, if_neg (by decide), if_neg (Nat.ne_of_gt some_)]
  rfl

/-- With decimal places, an amount is rendered with its sign, the symbol, a whole number, a point
and the digits of its places, which make it up. -/
theorem formatAmount_worth (read : ofText asset = .ok ⟨code, precision⟩) (some_ : 0 < precision) :
    ∃ (whole : Nat) (fraction : Text), formatAmount amount asset =
        .ok (sign amount ++ symbol code ++ Decimal.ofNat whole ++ "." ++ fraction) ∧
      fraction.length = precision ∧ (∀ c ∈ fraction, Decimal.IsFigure c) ∧
      amount = signum amount * (whole * 10 ^ precision + Decimal.value fraction) := by
  refine ⟨_, _, formatAmount_places fit read some_,
    Decimal.length_zeroPadded some_ (Nat.mod_lt _ (Nat.pow_pos (by decide))),
    fun c => Decimal.isFigure_of_mem_zeroPadded, ?_⟩
  have split := Nat.div_add_mod' amount.natAbs (10 ^ precision)
  rw [Decimal.value_zeroPadded]
  conv_lhs => rw [← signum_mul_natAbs amount, ← split]
  push_cast
  rfl

end Format

/-! ## Telling amounts apart -/

/-- A symbol ends in a character that is no digit, so that it is told from the number behind. -/
theorem symbol_eq_append (code : Text) :
    ∃ front mark, symbol code = front ++ [mark] ∧ isDecimalDigit mark = false := by
  unfold symbol
  split
  · exact ⟨[], '$', rfl, by decide +kernel⟩
  split
  · exact ⟨[], '€', rfl, by decide +kernel⟩
  split
  · exact ⟨[], '£', rfl, by decide +kernel⟩
  split
  · exact ⟨"R", '$', rfl, by decide +kernel⟩
  · exact ⟨code, ' ', rfl, by decide +kernel⟩

/-- With a sign in front and without one, no two amounts read alike: the end of the symbol would
stand among the digits of the other number. -/
theorem minus_symbol_ne (code : Text) (m n : Nat) :
    .char '-' :: (symbol code ++ Decimal.ofNat m) ≠ symbol code ++ Decimal.ofNat n := by
  obtain ⟨front, mark, spelled, solid⟩ := symbol_eq_append code
  intro same
  have shifted : (.char '-' :: front) ++ (mark :: Decimal.ofNat m) =
      (front ++ [mark]) ++ Decimal.ofNat n := by
    rw [spelled] at same
    simpa only [List.append_assoc, List.cons_append, List.nil_append] using same
  obtain ⟨-, digits⟩ := List.append_inj shifted (by simp)
  exact Decimal.notMem_ofNat solid n (digits ▸ List.mem_cons_self)

theorem sign_symbol_inj {code : Text} {amount other : Int} {m n : Nat}
    (same : sign amount ++ symbol code ++ Decimal.ofNat m =
      sign other ++ symbol code ++ Decimal.ofNat n) :
    signum amount = signum other ∧ m = n := by
  rw [List.append_assoc, List.append_assoc] at same
  unfold sign at same
  unfold signum
  by_cases here : amount < 0
  · rw [if_pos here] at same ⊢
    by_cases there : other < 0
    · rw [if_pos there] at same ⊢
      have numbers := List.append_cancel_left (List.append_cancel_left same)
      exact ⟨rfl, Decimal.ofNat_injective numbers⟩
    · rw [if_neg there] at same
      exact absurd same (minus_symbol_ne code m n)
  · rw [if_neg here] at same ⊢
    by_cases there : other < 0
    · rw [if_pos there] at same
      exact absurd same.symm (minus_symbol_ne code n m)
    · rw [if_neg there] at same ⊢
      have numbers := List.append_cancel_left (List.append_cancel_left same)
      exact ⟨rfl, Decimal.ofNat_injective numbers⟩

/-- Amounts of one asset that read alike are the same. -/
theorem formatAmount_inj {asset code : Text} {precision : Nat}
    (read : ofText asset = .ok ⟨code, precision⟩) {amount other : Int}
    (fit : Decimal.fits amount = true) (fits : Decimal.fits other = true)
    (same : formatAmount amount asset = formatAmount other asset) : amount = other := by
  rcases Nat.eq_zero_or_pos precision with rfl | some_
  · rw [formatAmount_whole fit read, formatAmount_whole fits read] at same
    exact Decimal.ofInt_injective
      (List.append_cancel_right (List.append_cancel_right (Except.ok.inj same)))
  · obtain ⟨m, row, here, places, -, worth⟩ := formatAmount_worth fit read some_
    obtain ⟨n, digits, there, width, -, value⟩ := formatAmount_worth fits read some_
    rw [here, there] at same
    obtain ⟨front, rfl⟩ := List.append_inj' (Except.ok.inj same) (places.trans width.symm)
    obtain ⟨signs, rfl⟩ := sign_symbol_inj (List.append_cancel_right front)
    rw [worth, value, signs]

/-- An amount as people read it is exact. With decimal places it is its sign, the symbol of the
code, a whole number, a point and just as many digits, which together make up the amount; only
an amount below zero has a sign. Without, it is the whole number in front of the code. So two
amounts of an asset that read alike are the same. -/
theorem formatAmount_exact {asset code : Text} {precision : Nat}
    (read : ofText asset = .ok ⟨code, precision⟩) :
    (∀ amount : Int, Decimal.fits amount = true →
      (0 < precision → ∃ (whole : Nat) (fraction : Text), formatAmount amount asset =
          .ok ((if amount < 0 then "-" else [] : Text) ++ symbol code ++ Decimal.ofNat whole ++
            "." ++ fraction) ∧
        fraction.length = precision ∧ (∀ c ∈ fraction, Decimal.IsFigure c) ∧
        amount = (if amount < 0 then -1 else 1) *
          (whole * 10 ^ precision + Decimal.value fraction)) ∧
      (precision = 0 →
        formatAmount amount asset = .ok (Decimal.ofInt amount ++ " " ++ code))) ∧
    ∀ amount other : Int, Decimal.fits amount = true → Decimal.fits other = true →
      formatAmount amount asset = formatAmount other asset → amount = other := by
  refine ⟨fun amount fit => ⟨fun some_ => formatAmount_worth fit read some_, ?_⟩,
    fun amount other => formatAmount_inj read⟩
  rintro rfl
  exact formatAmount_whole fit read

/-- Five cents and five coins that are owed. -/
theorem formatAmount_owed :
    (∃ (whole : Nat) (fraction : Text), formatAmount (-5) "USD/2" =
        .ok ("-" ++ symbol "USD" ++ Decimal.ofNat whole ++ "." ++ fraction) ∧
      fraction.length = 2 ∧ (∀ c ∈ fraction, Decimal.IsFigure c) ∧
      -5 = -1 * (whole * 10 ^ 2 + Decimal.value fraction : Int)) ∧
    formatAmount (-5) "COIN" = .ok (Decimal.ofInt (-5) ++ " " ++ "COIN") ∧
    formatAmount 5 "USD/2" ≠ formatAmount (-5) "USD/2" := by
  have cents : ofText "USD/2" = .ok ⟨"USD", 2⟩ := toOption_eq_some.mp (by decide +kernel)
  have coins : ofText "COIN" = .ok ⟨"COIN", 0⟩ := toOption_eq_some.mp (by decide +kernel)
  have above : Decimal.fits 5 = true := by decide +kernel
  have below : Decimal.fits (-5) = true := by decide +kernel
  exact ⟨((formatAmount_exact cents).1 (-5) below).1 (by decide),
    ((formatAmount_exact coins).1 (-5) below).2 rfl,
    fun same => absurd ((formatAmount_exact cents).2 5 (-5) above below same) (by decide)⟩

end DoubleEntry.Asset
