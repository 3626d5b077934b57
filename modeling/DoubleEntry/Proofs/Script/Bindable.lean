import DoubleEntry.Proofs.Faults
import DoubleEntry.Script.Binding

/-!
# Values that can be bound

A variable can be bound to a text, to a whole number and to an object with an asset and an
amount, if the asset can be written. Other values are refused before a script is looked at, and
not as faults of the ledger.
-/

namespace DoubleEntry

namespace Data

/-- Whether a value can be the amount of a variable: it is a whole number or a truth value, or a
whole number can be read off it. -/
def isAmount : Data → Bool
  | .int _ | .bool _ | .double (.finite _ _ _) => true
  | .text t => (Integer.ofText t).isOk
  | _ => false

/-- Whether a variable can be bound to a value: it is a text or a whole number, or an object
with an asset that can be written and an amount. -/
def isBindable : Data → Bool
  | .text _ | .int _ => true
  | .object fields =>
    match Entries.get? fields "asset", Entries.get? fields "amount" with
    | some asset, some amount => asset.numbers.all Decimal.fits && amount.isAmount
    | _, _ => false
  | _ => false

end Data

namespace Binding

/-- An amount can be read, or what is wrong with it is no fault of the ledger. -/
theorem amountOf_cases (amount : Data) :
    (amount.isAmount = true ∧ ∃ n, amountOf amount = .ok n) ∨
      (amount.isAmount = false ∧
        ∃ fault, amountOf amount = .error fault ∧ fault.isLedgerFault = false) := by
  match amount with
  | .int n => exact Or.inl ⟨rfl, n, rfl⟩
  | .bool b => exact Or.inl ⟨rfl, _, rfl⟩
  | .double (.finite negative mantissa exponent) => exact Or.inl ⟨rfl, _, rfl⟩
  | .double (.infinite negative) => exact Or.inr ⟨rfl, _, rfl, rfl⟩
  | .double .notANumber => exact Or.inr ⟨rfl, _, rfl, rfl⟩
  | .text t =>
      cases read : Integer.ofText t with
      | ok n => exact Or.inl ⟨by rw [Data.isAmount, read]; rfl, n, by rw [amountOf, read]⟩
      | error cause =>
          refine Or.inr ⟨by rw [Data.isAmount, read]; rfl, ?_⟩
          cases cause with
          | notANumeral => exact ⟨_, by rw [amountOf, read], rfl⟩
          | tooManyDigits count => exact ⟨_, by rw [amountOf, read], rfl⟩
  | .null | .list _ | .object _ => exact Or.inr ⟨rfl, _, rfl, rfl⟩

/-- A variable can be bound to a value, or what is wrong with this is no fault of the ledger. -/
theorem ofData_cases (name : Text) (value : Data) :
    (value.isBindable = true ∧ ∃ binding, ofData name value = .ok binding) ∨
      (value.isBindable = false ∧
        ∃ fault, ofData name value = .error fault ∧ fault.isLedgerFault = false) := by
  match value with
  | .text t => exact Or.inl ⟨rfl, _, rfl⟩
  | .int n => exact Or.inl ⟨rfl, _, rfl⟩
  | .null | .bool _ | .double _ | .list _ =>
      exact Or.inr ⟨rfl, _, rfl, Fault.isLedgerFault_of_kind rfl⟩
  | .object fields =>
      unfold Data.isBindable ofData
      dsimp only
      cases Entries.get? fields "asset" with
      | none => exact Or.inr ⟨rfl, _, rfl, Fault.isLedgerFault_of_kind rfl⟩
      | some asset =>
          cases Entries.get? fields "amount" with
          | none => exact Or.inr ⟨rfl, _, rfl, Fault.isLedgerFault_of_kind rfl⟩
          | some amount =>
              dsimp only
              rw [Data.written, Decimal.writing]
              by_cases fit : asset.numbers.all Decimal.fits = true
              · rw [if_pos fit, fit, Bool.true_and]
                obtain ⟨good, n, read⟩ | ⟨bad, fault, failed, foreign⟩ := amountOf_cases amount
                · exact Or.inl ⟨good, .monetary asset.shown n, by rw [read]; rfl⟩
                · exact Or.inr ⟨bad, fault, by rw [failed]; rfl, foreign⟩
              · rw [if_neg fit, eq_false_of_ne_true fit]
                exact Or.inr ⟨rfl, .unwritable, rfl, rfl⟩

end Binding

/-- Variables can be bound if each can be bound to its value, or what is wrong with one of them
is no fault of the ledger. -/
theorem Variables.bind_cases (vars : Variables) :
    ((∀ entry ∈ vars, entry.2.isBindable = true) ∧ ∃ bindings, vars.bind = .ok bindings) ∨
      ((∃ entry ∈ vars, entry.2.isBindable = false) ∧
        ∃ fault, vars.bind = .error fault ∧ fault.isLedgerFault = false) := by
  have each (entry : Text × Data) :
      ((∃ bound, (fun binding => (entry.1, binding)) <$> Binding.ofData entry.1 entry.2 =
          .ok bound) ↔ entry.2.isBindable = true) ∧
      FailsOnly (fun fault => fault.isLedgerFault = false)
        ((fun binding => (entry.1, binding)) <$> Binding.ofData entry.1 entry.2) := by
    obtain ⟨good, binding, made⟩ | ⟨bad, fault, failed, foreign⟩ :=
      Binding.ofData_cases entry.1 entry.2
    · rw [good, made]
      exact ⟨iff_of_true ⟨_, rfl⟩ rfl, failsOnly_ok _⟩
    · rw [bad, failed]
      exact ⟨iff_of_false nofun nofun, failsOnly_error foreign⟩
  have all : (∃ bindings, vars.bind = .ok bindings) ↔
      ∀ entry ∈ vars, entry.2.isBindable = true :=
    exists_mapM_ok_iff.trans (forall₂_congr fun entry _ => (each entry).1)
  cases bound : vars.bind with
  | ok bindings => exact Or.inl ⟨all.mp ⟨bindings, bound⟩, bindings, rfl⟩
  | error fault =>
      refine Or.inr ⟨?_, fault, rfl, FailsOnly.mapM (fun entry _ => (each entry).2) fault bound⟩
      by_contra nobody
      have bindable : ∀ entry ∈ vars, entry.2.isBindable = true := fun entry mem =>
        eq_true_of_ne_false fun bad => nobody ⟨entry, mem, bad⟩
      obtain ⟨bindings, made⟩ := all.mpr bindable
      rw [bound] at made
      cases made

end DoubleEntry
