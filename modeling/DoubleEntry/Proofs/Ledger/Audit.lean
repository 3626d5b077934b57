import DoubleEntry.Ledger.Query
import DoubleEntry.Proofs.Entries

/-!
# What an audit adds up

An audit sums the entries of all accounts by asset. The order of the accounts decides
only the order of the sums.
-/

namespace DoubleEntry

namespace Audit

/-- Add amounts to sums by asset. -/
def addUp (sums : Entries Text Int) (amounts : List (Text × Int)) : Entries Text Int :=
  amounts.foldl (fun sums (asset, amount) => sums.put asset ((sums.get? asset).getD 0 + amount))
    sums

/-- The sum of the amounts of one asset. -/
def sumOf (amounts : List (Text × Int)) (asset : Text) : Int :=
  ((amounts.filter fun entry => entry.1 = asset).map Prod.snd).sum

@[simp] theorem addUp_nil (sums : Entries Text Int) : addUp sums [] = sums := rfl

@[simp] theorem addUp_cons (sums : Entries Text Int) (asset : Text) (amount : Int)
    (rest : List (Text × Int)) :
    addUp sums ((asset, amount) :: rest) =
      addUp (sums.put asset ((sums.get? asset).getD 0 + amount)) rest := rfl

theorem sumOf_cons (other asset : Text) (amount : Int) (rest : List (Text × Int)) :
    sumOf ((other, amount) :: rest) asset =
      (if other = asset then amount else 0) + sumOf rest asset := by
  by_cases h : other = asset
  · simp [sumOf, h]
  · simp [sumOf, h]

theorem sumOf_append (first second : List (Text × Int)) (asset : Text) :
    sumOf (first ++ second) asset = sumOf first asset + sumOf second asset := by
  simp [sumOf]

theorem sumOf_perm {first second : List (Text × Int)} (h : first.Perm second) (asset : Text) :
    sumOf first asset = sumOf second asset :=
  ((h.filter _).map _).sum_eq

theorem sumOf_flatMap {α : Type} (items : List α) (amounts : α → List (Text × Int))
    (asset : Text) :
    sumOf (items.flatMap amounts) asset = (items.map fun item => sumOf (amounts item) asset).sum := by
  induction items with
  | nil => rfl
  | cons item rest ih =>
      rw [List.flatMap_cons, sumOf_append, ih, List.map_cons, List.sum_cons]

/-- Where each asset has one entry, the sum is this entry. -/
theorem sumOf_entries {entries : Entries Text Int} (distinct : entries.keys.Nodup)
    (asset : Text) : sumOf entries asset = (entries.get? asset).getD 0 := by
  induction entries with
  | nil => rfl
  | cons entry rest ih =>
      obtain ⟨other, amount⟩ := entry
      simp only [Entries.keys, List.map_cons, List.nodup_cons] at distinct
      rw [sumOf_cons, ih distinct.2]
      by_cases h : other = asset
      · subst h
        have absent : Entries.get? rest other = none :=
          (Entries.get?_eq_none_iff rest other).mpr distinct.1
        simp [Entries.get?, absent]
      · simp [Entries.get?, h]

theorem nodup_addUp {sums : Entries Text Int} (distinct : sums.keys.Nodup)
    (amounts : List (Text × Int)) : (addUp sums amounts).keys.Nodup := by
  induction amounts generalizing sums with
  | nil => exact distinct
  | cons entry rest ih => exact ih (Entries.nodup_keys_put distinct _ _)

theorem hasKey_addUp (sums : Entries Text Int) (amounts : List (Text × Int)) (asset : Text) :
    (addUp sums amounts).hasKey asset = true ↔
      sums.hasKey asset = true ∨ Entries.hasKey amounts asset = true := by
  induction amounts generalizing sums with
  | nil => simp [Entries.hasKey]
  | cons entry rest ih =>
      obtain ⟨other, amount⟩ := entry
      rw [addUp_cons, ih, Entries.hasKey_put, Entries.hasKey_cons, or_assoc, or_left_comm]

theorem get?_addUp (sums : Entries Text Int) (amounts : List (Text × Int)) (asset : Text) :
    ((addUp sums amounts).get? asset).getD 0 =
      (sums.get? asset).getD 0 + sumOf amounts asset := by
  induction amounts generalizing sums with
  | nil => exact (Int.add_zero _).symm
  | cons entry rest ih =>
      obtain ⟨other, amount⟩ := entry
      rw [addUp_cons, ih, sumOf_cons, Entries.get?_put]
      by_cases h : other = asset
      · subst h
        simp only [if_true, Option.getD_some]
        omega
      · simp only [if_neg h]
        omega

/-- An audit has no discrepancies if all of its sums are zero. -/
theorem discrepancies_eq_nil {audit : Audit} (h : ∀ asset total,
    (asset, total) ∈ audit.supplies → total = 0) : audit.discrepancies = [] := by
  unfold discrepancies
  rw [List.filter_eq_nil_iff]
  rintro ⟨asset, total⟩ mem
  simp [h asset total mem]

end Audit

namespace Ledger

variable (ledger : Ledger)

/-- The entries of all accounts in the order in which an audit adds them up. -/
def audited : List (Text × Int) :=
  (ledger.accounts.mergeSort fun a b => a.1.isUpTo b.1).flatMap fun entry => entry.2.balances

theorem audit_supplies : ledger.audit.supplies = Audit.addUp [] ledger.audited := rfl

theorem audited_perm :
    ledger.audited.Perm (ledger.accounts.flatMap fun entry => entry.2.balances) :=
  (List.mergeSort_perm _ _).flatMap_right _

theorem nodup_audit : ledger.audit.supplies.keys.Nodup := by
  have empty : (Entries.keys ([] : Entries Text Int)).Nodup := List.nodup_nil
  rw [audit_supplies]
  exact Audit.nodup_addUp empty _

/-- An audit knows the assets that some account has an entry for. -/
theorem hasKey_audit (asset : Text) :
    ledger.audit.supplies.hasKey asset = true ↔
      ∃ entry ∈ ledger.accounts, entry.2.balances.hasKey asset = true := by
  rw [audit_supplies, Audit.hasKey_addUp, Entries.hasKey_iff_mem ledger.audited]
  unfold Entries.keys
  rw [(ledger.audited_perm.map Prod.fst).mem_iff]
  simp only [Entries.hasKey_iff_mem, Entries.keys, List.map_flatMap, List.mem_flatMap]
  constructor
  · rintro (none | found)
    · cases none
    · exact found
  · exact Or.inr

end Ledger

end DoubleEntry
