import DoubleEntry.Proofs.Address.Pattern
import DoubleEntry.Proofs.Ledger.Store
import DoubleEntry.Proofs.Ledger.Totals

/-!
# Questions about one address

A pattern without wildcards stands for one address, however this is spelled. Questions that
scan all accounts for such a pattern find the account that is looked up under the address.
-/

namespace DoubleEntry.Ledger

/-! ## Ledgers in use -/

/-- Whether a ledger was created at some time and has only served requests since. -/
def IsServed (ledger : Ledger) : Prop :=
  ∃ name clock verbose requests, ledger = (create name clock verbose).serveAll requests

namespace IsServed

variable {ledger : Ledger} (served : ledger.IsServed)
include served

theorem serve (request : Request) : (ledger.serve request).IsServed := by
  obtain ⟨name, clock, verbose, requests, rfl⟩ := served
  refine ⟨name, clock, verbose, requests ++ [request], ?_⟩
  rw [serveAll, serveAll, List.foldl_append]
  rfl

theorem isKept : ledger.IsKept := by
  obtain ⟨name, clock, verbose, requests, rfl⟩ := served
  exact isKept_serveAll name clock verbose requests

theorem isAddressed : ledger.IsAddressed := by
  obtain ⟨name, clock, verbose, requests, rfl⟩ := served
  exact isAddressed_serveAll name clock verbose requests

end IsServed

/-! ## One account under one address -/

/-- What an account has of each asset that it has something of, or owes. -/
def held (ledger : Ledger) (address : Text) : Entries Text Int :=
  (ledger.balances address).filter fun entry => entry.2 ≠ 0

/-- If no asset has two rows, each row is a total. -/
theorem totalOf_of_nodup {rows : List BalanceRow}
    (distinct : (rows.map BalanceRow.asset).Nodup) {row : BalanceRow} (mem : row ∈ rows) :
    totalOf rows row.asset =
      { asset := row.asset, balance := row.balance, accounts := [row.address] } := by
  have own := Entries.filter_of_nodup distinct mem
  rw [totalOf, own, List.foldl_cons, List.foldl_nil, Int.zero_add]
  rfl

variable {ledger : Ledger} (kept : ledger.IsKept) {pattern : Text}
  (plain : Pattern.isWildcard pattern = false)
include kept

theorem IsKept.nodup_held (address : Text) : (ledger.held address).keys.Nodup := by
  have distinct : (ledger.balances address).keys.Nodup := by
    unfold balances
    split
    · next account found => exact kept.entries _ (Entries.mem_of_get? found)
    · exact List.nodup_nil
  exact distinct.sublist (List.filter_sublist.map _)

include plain

/-- A scan for a pattern that stands for one address finds the account with the address. -/
theorem IsKept.filter_accepts :
    (ledger.accounts.filter fun entry => Pattern.accepts pattern entry.1) =
      (ledger.account? pattern).toList.map fun account => (Address.normalize pattern, account) := by
  rw [account?, ← Entries.filter_key kept.distinct]
  refine List.filter_congr fun entry mem => ?_
  rw [Pattern.accepts_of_plain plain, kept.full entry.1 (List.mem_map_of_mem mem)]

theorem IsKept.balancesOf_plain :
    ledger.balancesOf pattern = (ledger.held pattern).map fun entry =>
      { address := Address.normalize pattern, asset := entry.1, balance := entry.2 } := by
  rw [balancesOf_eq, kept.filter_accepts plain, held, balances]
  cases ledger.account? pattern with
  | none => rfl
  | some account => exact List.append_nil _

theorem IsKept.totalsOf_plain :
    ledger.totalsOf [pattern] = (ledger.held pattern).map fun entry =>
      { asset := entry.1, balance := entry.2, accounts := [Address.normalize pattern] } := by
  have rows := kept.balancesOf_plain plain
  have distinct : ((ledger.balancesOf pattern).map BalanceRow.asset).Nodup := by
    rw [rows, List.map_map]
    exact kept.nodup_held pattern
  have union : ledger.unionRows [pattern] = ledger.balancesOf pattern := by
    rw [unionRows, List.flatMap_singleton]
    exact Entries.eraseDups_of_nodup (distinct.of_map _)
  calc ledger.totalsOf [pattern]
      = (ledger.balancesOf pattern).map fun row =>
          totalOf (ledger.balancesOf pattern) row.asset := by
        rw [totalsOf, union, Entries.eraseDups_of_nodup distinct, List.map_map]
        rfl
    _ = (ledger.balancesOf pattern).map fun row =>
          { asset := row.asset, balance := row.balance, accounts := [row.address] } :=
        List.map_congr_left fun row mem => totalOf_of_nodup distinct mem
    _ = (ledger.held pattern).map fun entry =>
          { asset := entry.1, balance := entry.2, accounts := [Address.normalize pattern] } := by
        rw [rows, List.map_map]
        rfl

/-- A filter for the address of one account lets just this account through. -/
theorem IsKept.accountsBy_plain (addressed : ledger.IsAddressed) (nonempty : pattern ≠ []) :
    (ledger.accountsBy { address := some pattern, metadata := [] }).map Prod.snd =
      (ledger.account? pattern).toList := by
  have scan : ledger.accountsBy { address := some pattern, metadata := [] } =
      ledger.accounts.filter fun entry => Pattern.accepts pattern entry.1 := by
    refine List.filter_congr fun ⟨address, account⟩ mem => ?_
    have own : account.address = address := addressed.own _ mem
    simp [Metadata.answers, nonempty, own]
  rw [scan, kept.filter_accepts plain, List.map_map]
  exact List.map_id _

end DoubleEntry.Ledger
