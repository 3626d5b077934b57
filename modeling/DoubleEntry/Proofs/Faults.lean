import DoubleEntry.Proofs.Except
import DoubleEntry.Script.Basic

/-!
# Faults that can be reported

A fault is reported as it is unless a number that its wording writes out is too long. The
amounts of literals are never too long, since they were read.
-/

namespace DoubleEntry

namespace Decimal

theorem value_lt (digits : Text) : value digits < Nat.pow 10 digits.length := by
  induction digits with
  | nil => decide
  | cons digit rest ih =>
      have first : value [digit] < 10 := by
        rw [value, List.foldl_cons, List.foldl_nil, Nat.zero_mul, Nat.zero_add]
        exact digitValue_lt_ten digit
      have shifted : value [digit] * Nat.pow 10 rest.length ≤ 9 * Nat.pow 10 rest.length :=
        Nat.mul_le_mul_right _ (Nat.le_of_lt_succ first)
      have place : Nat.pow 10 (rest.length + 1) = Nat.pow 10 rest.length * 10 := rfl
      have parts := value_append [digit] rest
      rw [List.singleton_append] at parts
      rw [parts, List.length_cons, place]
      omega

theorem fits_natCast (n : Nat) : fits n = true ↔ n < Nat.pow 10 digitLimit := by
  rw [fits, decide_eq_true_eq, Int.natAbs_natCast]

/-- The first natural number that is too long to be written. -/
theorem fits_limit : fits (Nat.pow 10 digitLimit) = false :=
  Bool.eq_false_iff.mpr fun fit => Nat.lt_irrefl _ ((fits_natCast _).mp fit)

theorem limit_pos : 0 < Nat.pow 10 digitLimit := by
  have positive (exponent : Nat) : 0 < Nat.pow 10 exponent := Nat.pow_pos (by decide)
  exact positive digitLimit

/-- A natural number below one that can be written can be written. -/
theorem fits_of_le {n bound : Int} (nonneg : 0 ≤ n) (le : n ≤ bound) (fit : fits bound = true) :
    fits n = true := by
  have smaller : n.natAbs ≤ bound.natAbs := by
    rw [← Int.ofNat_le, Int.natAbs_of_nonneg nonneg, Int.natAbs_of_nonneg (Int.le_trans nonneg le)]
    exact le
  rw [fits, decide_eq_true_eq] at fit ⊢
  exact Nat.lt_of_le_of_lt smaller fit

theorem fits_value {digits : Text} (short : digits.length ≤ digitLimit) :
    fits (value digits) = true := by
  have bound {limit : Nat} (within : digits.length ≤ limit) :
      Nat.pow 10 digits.length ≤ Nat.pow 10 limit := Nat.pow_le_pow_right (by decide) within
  exact (fits_natCast _).mpr (Nat.lt_of_lt_of_le (value_lt digits) (bound short))

/-! ## Writing numbers -/

variable {numbers others : List Int}

/-- Where all numbers can be written, none is too long. -/
theorem not_long_of_fits (fit : ∀ n ∈ numbers, fits n = true) :
    ¬∃ n ∈ numbers, fits n = false := by
  rintro ⟨n, mem, long⟩
  rw [fit n mem] at long
  cases long

theorem writing_of_fits (fit : ∀ n ∈ numbers, fits n = true) (t : Text) :
    writing numbers t = .ok t :=
  if_pos (List.all_eq_true.mpr fit)

theorem writing_of_not_fits (unfit : ∃ n ∈ numbers, fits n = false) (t : Text) :
    writing numbers t = .error .unwritable :=
  if_neg fun fit => not_long_of_fits (List.all_eq_true.mp fit) unfit

/-- Either all numbers can be written or one of them is too long. -/
theorem fits_or_not (numbers : List Int) :
    (∀ n ∈ numbers, fits n = true) ∨ ∃ n ∈ numbers, fits n = false := by
  by_cases fit : ∀ n ∈ numbers, fits n = true
  · exact Or.inl fit
  · right
    simpa using fit

theorem writing_eq_ok {t result : Text} :
    writing numbers t = .ok result ↔ (∀ n ∈ numbers, fits n = true) ∧ result = t := by
  rcases fits_or_not numbers with fit | unfit
  · rw [writing_of_fits fit, Except.ok.injEq, and_iff_right fit, eq_comm]
  · rw [writing_of_not_fits unfit]
    exact iff_of_false nofun fun both => not_long_of_fits both.1 unfit

/-- To write one text behind another is to write the numbers of both. -/
theorem writing_bind (next : Text → List Int × Text) (t : Text) :
    (writing numbers t >>= fun written => writing (next written).1 (next written).2) =
      writing (numbers ++ (next t).1) (next t).2 := by
  unfold writing
  rw [List.all_append]
  cases numbers.all fits <;> rfl

/-- Whether something can be written hangs only on the numbers that are too long. -/
theorem writing_congr (same : ∀ n, fits n = false → (n ∈ numbers ↔ n ∈ others)) (t : Text) :
    writing numbers t = writing others t := by
  rcases fits_or_not others with fit | ⟨n, mem, long⟩
  · rw [writing_of_fits fit]
    refine writing_of_fits (fun n mem => Bool.of_not_eq_false fun long => ?_) t
    exact not_long_of_fits fit ⟨n, (same n long).mp mem, long⟩
  · rw [writing_of_not_fits ⟨n, mem, long⟩, writing_of_not_fits ⟨n, (same n long).mpr mem, long⟩]

end Decimal

/-! ## Failing in known ways -/

section FailsOnly

variable {α β : Type} {P : Fault → Prop}

/-- Whether an outcome is a fault of a certain kind if it is one at all. -/
def FailsOnly (P : Fault → Prop) (outcome : Except Fault α) : Prop :=
  ∀ fault, outcome = .error fault → P fault

theorem failsOnly_ok (value : α) : FailsOnly P (.ok value : Except Fault α) := nofun

theorem failsOnly_error {fault : Fault} (known : P fault) :
    FailsOnly P (.error fault : Except Fault α) := by
  rintro _ ⟨rfl⟩
  exact known

theorem FailsOnly.bind {first : Except Fault α} {next : α → Except Fault β}
    (here : FailsOnly P first) (later : ∀ value, first = .ok value → FailsOnly P (next value)) :
    FailsOnly P (first >>= next) := by
  cases first with
  | error fault =>
      rintro _ ⟨rfl⟩
      exact here fault rfl
  | ok value => exact later value rfl

theorem FailsOnly.map {outcome : Except Fault α} (known : FailsOnly P outcome) (f : α → β) :
    FailsOnly P (outcome.map f) := by
  cases outcome with
  | error fault => exact failsOnly_error (known fault rfl)
  | ok value => exact failsOnly_ok (f value)

theorem FailsOnly.mapM {read : α → Except Fault β} {items : List α}
    (each : ∀ item ∈ items, FailsOnly P (read item)) : FailsOnly P (items.mapM read) := by
  induction items with
  | nil => exact failsOnly_ok []
  | cons item rest ih =>
      obtain ⟨here, later⟩ := List.forall_mem_cons.mp each
      rw [List.mapM_cons]
      exact here.bind fun first _ => (ih later).bind fun others _ => failsOnly_ok _

/-- To write something can fail only for the length of a number. -/
theorem failsOnly_writing (unwritable : P .unwritable) (numbers : List Int) (t : Text) :
    FailsOnly P (Decimal.writing numbers t) := by
  rcases Decimal.fits_or_not numbers with fit | long
  · rw [Decimal.writing_of_fits fit]
    exact failsOnly_ok t
  · rw [Decimal.writing_of_not_fits long]
    exact failsOnly_error unwritable

end FailsOnly

namespace Fault

theorem reported_of_fits {fault : Fault} (fit : ∀ n ∈ fault.numbers, Decimal.fits n = true) :
    fault.reported = fault :=
  if_pos (List.all_eq_true.mpr fit)

/-- A fault is one of the ledger just when its kind is and it can be written. -/
theorem isLedgerFault_iff (fault : Fault) :
    fault.isLedgerFault = true ↔
      fault.kind.isLedgerKind = true ∧ ∀ n ∈ fault.numbers, Decimal.fits n = true := by
  rw [isLedgerFault, reported, ← List.all_eq_true]
  by_cases fit : fault.numbers.all Decimal.fits = true
  · rw [if_pos fit, fit, and_iff_left rfl]
  · rw [if_neg fit]
    exact ⟨nofun, fun both => absurd both.2 fit⟩

/-- What is of no kind of the ledger is reported as none of its faults. -/
theorem isLedgerFault_of_kind {fault : Fault} (foreign : fault.kind.isLedgerKind = false) :
    fault.isLedgerFault = false := by
  refine Bool.eq_false_iff.mpr fun known => ?_
  rw [((isLedgerFault_iff fault).mp known).1] at foreign
  cases foreign

/-- A fault of the ledger is reported as one of its kind just when its numbers can be
written. -/
theorem kind_reported {fault : Fault} {kind : Kind} (known : fault.kind = kind)
    (own : kind.isLedgerKind = true) :
    fault.reported.kind = kind ↔ ∀ n ∈ fault.numbers, Decimal.fits n = true := by
  rw [reported, ← List.all_eq_true]
  split
  · next fit => exact iff_of_true known fit
  · next unfit =>
      refine iff_of_false (fun same => ?_) unfit
      rw [← same] at own
      cases own

/-- A fault that keeps its kind is reported as it is. -/
theorem reported_of_kind {fault : Fault} {kind : Kind} (known : fault.kind = kind)
    (own : kind.isLedgerKind = true) (told : fault.reported.kind = kind) :
    fault.reported = fault :=
  reported_of_fits ((kind_reported known own).mp told)

/-- A fault that does not keep its kind is reported as one that cannot be written. -/
theorem reported_of_kind_ne {fault : Fault} {kind : Kind} (known : fault.kind = kind)
    (untold : fault.reported.kind ≠ kind) : fault.reported = .unwritable := by
  refine if_neg fun fit => untold ?_
  rw [reported, if_pos fit, known]

/-- A shortfall is reported as such just when what is missing can be written. -/
theorem kind_reported_shortfall (asset : Text) (missing : Int) :
    (shortfall (.text asset) missing).reported.kind = .insufficientFunds ↔
      Decimal.fits missing = true :=
  (kind_reported rfl rfl).trans List.forall_mem_singleton

/-- A posting that was refused is reported as such just when what is there and what is asked for
can be written. -/
theorem kind_reported_overdrawn (account asset : Text) (available required : Int) :
    (overdrawn account asset available required).reported.kind = .insufficientFunds ↔
      Decimal.fits available = true ∧ Decimal.fits required = true :=
  (kind_reported rfl rfl).trans
    (List.forall_mem_cons.trans (and_congr_right fun _ => List.forall_mem_singleton))

/-- Portions that exceed a total are reported as a fault of the script just when the total and
the excess can be written. -/
theorem kind_reported_portionsExceed (total excess : Int) :
    (portionsExceed total excess).reported.kind = .execution ↔
      Decimal.fits total = true ∧ Decimal.fits excess = true :=
  (kind_reported rfl rfl).trans
    (List.forall_mem_cons.trans (and_congr_right fun _ => List.forall_mem_singleton))

end Fault

end DoubleEntry
