import DoubleEntry.Ledger.Query
import DoubleEntry.Proofs.Ledger.Conservation
import Mathlib.Data.List.Nodup

/-!
# Totals over patterns

However often and in whichever order patterns mention an account, its balances enter the
totals once. So the totals of an asset depend on the set of patterns only, and over all
accounts of a ledger in use they are zero.
-/

namespace DoubleEntry

/-- Whether two totals differ at most in the order of their accounts. -/
def TotalRow.Same (one other : TotalRow) : Prop :=
  one.asset = other.asset ∧ one.balance = other.balance ∧ one.accounts.Perm other.accounts

/-- An account has an amount of an asset just when it has an entry for it, zero apart. -/
theorem Account.mem_balances {account : Account} (distinct : account.balances.keys.Nodup)
    {asset : Text} {balance : Int} (nonzero : balance ≠ 0) :
    (asset, balance) ∈ account.balances ↔ account.balance asset = balance := by
  constructor
  · intro mem
    rw [Account.balance, Entries.get?_of_mem distinct mem, Option.getD_some]
  · intro same
    apply Entries.mem_of_get?
    unfold Account.balance at same
    cases found : account.balances.get? asset with
    | none =>
        rw [found] at same
        exact absurd same.symm nonzero
    | some held =>
        rw [found] at same
        exact congrArg some same

namespace Ledger

/-- No account is kept twice, and no account has two entries for one asset. -/
structure KeptOnce (ledger : Ledger) : Prop where
  accounts : ledger.accounts.keys.Nodup
  entries : ∀ entry ∈ ledger.accounts, entry.2.balances.keys.Nodup

variable {ledger : Ledger}

theorem IsKept.once (kept : ledger.IsKept) : ledger.KeptOnce := ⟨kept.distinct, kept.entries⟩

/-- The accounts that any of the patterns stands for. -/
def covered (ledger : Ledger) (patterns : List Text) : Entries Text Account :=
  ledger.accounts.filter fun entry =>
    patterns.any fun pattern => Pattern.accepts pattern entry.1

theorem mem_covered {patterns : List Text} {entry : Text × Account} :
    entry ∈ ledger.covered patterns ↔
      entry ∈ ledger.accounts ∧ ∃ pattern ∈ patterns, Pattern.accepts pattern entry.1 = true := by
  rw [covered, List.mem_filter, List.any_eq_true]

/-- Repetitions and the order of patterns do not matter. -/
theorem covered_congr {patterns others : List Text}
    (same : ∀ pattern, pattern ∈ others ↔ pattern ∈ patterns) :
    ledger.covered others = ledger.covered patterns := by
  refine List.filter_congr fun entry _ => ?_
  rw [Bool.eq_iff_iff, List.any_eq_true, List.any_eq_true]
  exact exists_congr fun pattern => and_congr_left' (same pattern)

theorem covered_colon (ledger : Ledger) : ledger.covered [[.char ':']] = ledger.accounts :=
  List.filter_eq_self.mpr fun _ _ => rfl

/-! ## The rows of an asset -/

/-- The row that an account has for an asset. -/
def rowOf (asset : Text) (entry : Text × Account) : BalanceRow :=
  { address := entry.1, asset, balance := entry.2.balance asset }

/-- All rows that an account has. -/
def rowsOf (entry : Text × Account) : List BalanceRow :=
  (entry.2.balances.filter fun held => held.2 ≠ 0).map fun held =>
    { address := entry.1, asset := held.1, balance := held.2 }

theorem mem_rowsOf {entry : Text × Account} {row : BalanceRow} :
    row ∈ rowsOf entry ↔
      row.address = entry.1 ∧ (row.asset, row.balance) ∈ entry.2.balances ∧ row.balance ≠ 0 := by
  rw [rowsOf, List.mem_map]
  constructor
  · rintro ⟨⟨asset, balance⟩, held, rfl⟩
    obtain ⟨mem, nonzero⟩ := List.mem_filter.mp held
    exact ⟨rfl, mem, of_decide_eq_true nonzero⟩
  · rintro ⟨here, mem, nonzero⟩
    exact ⟨(row.asset, row.balance), List.mem_filter.mpr ⟨mem, decide_eq_true nonzero⟩,
      here ▸ rfl⟩

/-- Only the accounts that a pattern stands for have rows. -/
theorem balancesOf_eq (ledger : Ledger) (pattern : Text) :
    ledger.balancesOf pattern =
      (ledger.accounts.filter fun entry => Pattern.accepts pattern entry.1).flatMap rowsOf := by
  unfold balancesOf
  induction ledger.accounts with
  | nil => rfl
  | cons entry rest ih =>
      obtain ⟨address, account⟩ := entry
      rw [List.flatMap_cons, ih, List.filter_cons]
      dsimp only
      split
      · rw [List.flatMap_cons]
        rfl
      · rfl

/-- Patterns have the rows of the accounts that they cover. -/
theorem KeptOnce.mem_unionRows (kept : ledger.KeptOnce) {patterns : List Text}
    {row : BalanceRow} :
    row ∈ ledger.unionRows patterns ↔
      ∃ entry ∈ ledger.covered patterns, rowOf row.asset entry = row ∧
        entry.2.balance row.asset ≠ 0 := by
  rw [unionRows, List.mem_eraseDups, List.mem_flatMap]
  simp only [balancesOf_eq, List.mem_flatMap, List.mem_filter, mem_rowsOf, mem_covered]
  constructor
  · rintro ⟨pattern, listed, entry, ⟨there, accepted⟩, here, mem, nonzero⟩
    have same := (Account.mem_balances (kept.entries entry there) nonzero).mp mem
    refine ⟨entry, ⟨there, pattern, listed, accepted⟩, ?_, same ▸ nonzero⟩
    rw [rowOf, ← here, same]
  · rintro ⟨entry, ⟨there, pattern, listed, accepted⟩, here, nonzero⟩
    have address : row.address = entry.1 := (congrArg BalanceRow.address here).symm
    have balance : entry.2.balance row.asset = row.balance := congrArg BalanceRow.balance here
    rw [balance] at nonzero
    exact ⟨pattern, listed, entry, ⟨there, accepted⟩, address,
      (Account.mem_balances (kept.entries entry there) nonzero).mpr balance, nonzero⟩

/-- The accounts that have something of an asset, or owe it. -/
def holders (covered : Entries Text Account) (asset : Text) : Entries Text Account :=
  covered.filter fun entry => entry.2.balance asset ≠ 0

theorem mem_holders {covered : Entries Text Account} {asset : Text} {entry : Text × Account} :
    entry ∈ holders covered asset ↔ entry ∈ covered ∧ entry.2.balance asset ≠ 0 := by
  rw [holders, List.mem_filter, decide_eq_true_eq]

/-- Who has nothing adds nothing. -/
theorem sum_holders (covered : Entries Text Account) (asset : Text) :
    ((holders covered asset).map fun entry => entry.2.balance asset).sum =
      (covered.map fun entry => entry.2.balance asset).sum := by
  induction covered with
  | nil => rfl
  | cons entry rest ih =>
      unfold holders at ih ⊢
      by_cases nothing : entry.2.balance asset = 0
      · rw [List.filter_cons_of_neg (by simpa using nothing), ih, List.map_cons, List.sum_cons,
          nothing, Int.zero_add]
      · rw [List.filter_cons_of_pos (by simpa using nothing), List.map_cons, List.map_cons,
          List.sum_cons, List.sum_cons, ih]

theorem KeptOnce.nodup_holders (kept : ledger.KeptOnce) (patterns : List Text) (asset : Text) :
    (holders (ledger.covered patterns) asset).keys.Nodup :=
  kept.accounts.sublist ((List.filter_sublist.trans List.filter_sublist).map Prod.fst)

/-- Each account that has something of an asset has one row of it. -/
theorem KeptOnce.rows_perm (kept : ledger.KeptOnce) (patterns : List Text) (asset : Text) :
    ((ledger.unionRows patterns).filter fun row => row.asset = asset).Perm
      ((holders (ledger.covered patterns) asset).map (rowOf asset)) := by
  have once : ((holders (ledger.covered patterns) asset).map (rowOf asset)).Nodup := by
    apply List.Nodup.of_map BalanceRow.address
    rw [List.map_map]
    exact kept.nodup_holders patterns asset
  refine (List.perm_ext_iff_of_nodup (List.Nodup.filter _ ?_) once).mpr fun row => ?_
  · exact Entries.nodup_eraseDups _
  · rw [List.mem_filter, kept.mem_unionRows, decide_eq_true_eq, List.mem_map]
    constructor
    · rintro ⟨⟨entry, mem, here, nonzero⟩, rfl⟩
      exact ⟨entry, mem_holders.mpr ⟨mem, nonzero⟩, here⟩
    · rintro ⟨entry, mem, rfl⟩
      obtain ⟨mem, nonzero⟩ := mem_holders.mp mem
      exact ⟨⟨entry, mem, rfl, nonzero⟩, rfl⟩

/-! ## The total of an asset -/

theorem balance_totalOf (rows : List BalanceRow) (asset : Text) :
    (totalOf rows asset).balance =
      ((rows.filter fun row => row.asset = asset).map BalanceRow.balance).sum := by
  rw [totalOf, List.sum_eq_foldl, List.foldl_map]

theorem assets_totalsOf (ledger : Ledger) (patterns : List Text) :
    (ledger.totalsOf patterns).map TotalRow.asset =
      ((ledger.unionRows patterns).map BalanceRow.asset).eraseDups := by
  rw [totalsOf, List.map_map]
  exact List.map_id _

theorem nodup_assets (ledger : Ledger) (patterns : List Text) :
    ((ledger.totalsOf patterns).map TotalRow.asset).Nodup := by
  rw [assets_totalsOf]
  exact Entries.nodup_eraseDups _

variable (kept : ledger.KeptOnce) (patterns : List Text) (asset : Text)
include kept

theorem KeptOnce.balance_totalOf :
    (totalOf (ledger.unionRows patterns) asset).balance =
      ((ledger.covered patterns).map fun entry => entry.2.balance asset).sum := by
  calc (totalOf (ledger.unionRows patterns) asset).balance
      = (((holders (ledger.covered patterns) asset).map (rowOf asset)).map
          BalanceRow.balance).sum := by
        rw [Ledger.balance_totalOf]
        exact ((kept.rows_perm patterns asset).map _).sum_eq
    _ = ((holders (ledger.covered patterns) asset).map fun entry => entry.2.balance asset).sum := by
        rw [List.map_map]
        rfl
    _ = ((ledger.covered patterns).map fun entry => entry.2.balance asset).sum := by
        exact sum_holders _ _

theorem KeptOnce.accounts_totalOf :
    (totalOf (ledger.unionRows patterns) asset).accounts.Perm
      (holders (ledger.covered patterns) asset).keys := by
  have rows := (kept.rows_perm patterns asset).map BalanceRow.address
  rwa [List.map_map] at rows

/-- A total is listed for each asset that somebody has something of. -/
theorem KeptOnce.mem_totalled :
    asset ∈ (ledger.totalsOf patterns).map TotalRow.asset ↔
      ∃ entry ∈ ledger.covered patterns, entry.2.balance asset ≠ 0 := by
  rw [assets_totalsOf, List.mem_eraseDups, List.mem_map]
  constructor
  · rintro ⟨row, mem, rfl⟩
    obtain ⟨entry, there, -, nonzero⟩ := kept.mem_unionRows.mp mem
    exact ⟨entry, there, nonzero⟩
  · rintro ⟨entry, there, nonzero⟩
    exact ⟨rowOf asset entry, kept.mem_unionRows.mpr ⟨entry, there, rfl, nonzero⟩, rfl⟩

theorem KeptOnce.mem_accounts (address : Text) :
    address ∈ (totalOf (ledger.unionRows patterns) asset).accounts ↔
      ∃ entry ∈ ledger.covered patterns, entry.1 = address ∧ entry.2.balance asset ≠ 0 := by
  rw [(kept.accounts_totalOf patterns asset).mem_iff, Entries.keys, List.mem_map]
  refine exists_congr fun entry => ?_
  rw [mem_holders, and_assoc, and_comm (a := entry.1 = address)]

variable {patterns} {others : List Text}
  (same : ∀ pattern, pattern ∈ others ↔ pattern ∈ patterns)
include same

theorem KeptOnce.totalOf_same :
    (totalOf (ledger.unionRows patterns) asset).Same (totalOf (ledger.unionRows others) asset) := by
  refine ⟨rfl, ?_, ?_⟩
  · rw [kept.balance_totalOf, kept.balance_totalOf, covered_congr same]
  · have there := kept.accounts_totalOf others asset
    rw [covered_congr same] at there
    exact (kept.accounts_totalOf patterns asset).trans there.symm

/-- Only the order of the totals and of their accounts depends on the order of the patterns. -/
theorem KeptOnce.totals_same : ∃ rows, rows.Perm (ledger.totalsOf others) ∧
    List.Forall₂ TotalRow.Same (ledger.totalsOf patterns) rows := by
  have assets : ((ledger.totalsOf patterns).map TotalRow.asset).Perm
      ((ledger.totalsOf others).map TotalRow.asset) := by
    refine (List.perm_ext_iff_of_nodup (nodup_assets _ _) (nodup_assets _ _)).mpr fun asset => ?_
    rw [kept.mem_totalled, kept.mem_totalled, covered_congr same]
  rw [assets_totalsOf, assets_totalsOf] at assets
  refine ⟨_, assets.map (totalOf (ledger.unionRows others)), ?_⟩
  rw [totalsOf, List.forall₂_map_left_iff, List.forall₂_map_right_iff, List.forall₂_same]
  exact fun asset _ => kept.totalOf_same asset same

omit kept same

/-- Each asset has at most one total, and it has one just if some account that a pattern stands
for has something of it or owes it. The total sums what all accounts have that any pattern stands
for, and names those that have something once each. So to permute or to repeat patterns only
permutes totals and names. In a ledger in use the totals over all accounts are zero. -/
theorem totalsOf_once :
    (∀ ledger : Ledger, ledger.KeptOnce → ∀ patterns : List Text,
      let totals := ledger.totalsOf patterns
      let covered := ledger.covered patterns
      (totals.map TotalRow.asset).Nodup ∧
      (∀ asset, asset ∈ totals.map TotalRow.asset ↔
        ∃ entry ∈ covered, entry.2.balance asset ≠ 0) ∧
      (∀ total ∈ totals,
        total.balance = (covered.map fun entry => entry.2.balance total.asset).sum ∧
        total.accounts.Nodup ∧
        ∀ address, address ∈ total.accounts ↔
          ∃ entry ∈ covered, entry.1 = address ∧ entry.2.balance total.asset ≠ 0) ∧
      ∀ others : List Text, (∀ pattern, pattern ∈ others ↔ pattern ∈ patterns) →
        ∃ rows, rows.Perm (ledger.totalsOf others) ∧ List.Forall₂ TotalRow.Same totals rows) ∧
    ∀ (name : Data) (clock : Option Moment) (verbose : Bool) (requests : List Request),
      let ledger := (create name clock verbose).serveAll requests
      ledger.KeptOnce ∧ ∀ total ∈ ledger.totalsOf [[.char ':']], total.balance = 0 := by
  constructor
  · intro ledger kept patterns totals covered
    refine ⟨nodup_assets ledger patterns, kept.mem_totalled patterns, ?_,
      fun _ same => kept.totals_same same⟩
    intro total listed
    obtain ⟨asset, -, rfl⟩ := List.mem_map.mp listed
    exact ⟨kept.balance_totalOf patterns asset,
      (kept.accounts_totalOf patterns asset).nodup_iff.mpr (kept.nodup_holders patterns asset),
      kept.mem_accounts patterns asset⟩
  · intro name clock verbose requests ledger
    have kept : ledger.KeptOnce := (isKept_serveAll name clock verbose requests).once
    refine ⟨kept, fun total listed => ?_⟩
    obtain ⟨asset, -, rfl⟩ := List.mem_map.mp listed
    rw [kept.balance_totalOf, covered_colon]
    exact supply_serveAll name clock verbose requests asset

/-- What two accounts have cancels out; one of them is covered twice. -/
theorem totalsOf_cancelling :
    let owed : Account := ⟨"@shop:1", [("USD/2", -5), ("EUR/2", 0)], [], .wallClock⟩
    let paid : Account := ⟨"@shop:2", [("USD/2", 5)], [], .wallClock⟩
    let ledger : Ledger :=
      ⟨.text "shop", false, [(owed.address, owed), (paid.address, paid)], [], 1, none⟩
    let patterns : List Text := ["@shop:1", "shop:"]
    let others : List Text := ["shop:", "@shop:1", "shop:"]
    ledger.KeptOnce ∧ ("USD/2" : Text) ∈ (ledger.totalsOf patterns).map TotalRow.asset ∧
      ("EUR/2" : Text) ∉ (ledger.totalsOf patterns).map TotalRow.asset ∧
      (∀ total ∈ ledger.totalsOf patterns, total.asset = "USD/2" →
        total.balance = 0 ∧ owed.address ∈ total.accounts ∧ paid.address ∈ total.accounts) ∧
      ∃ rows, rows.Perm (ledger.totalsOf others) ∧
        List.Forall₂ TotalRow.Same (ledger.totalsOf patterns) rows := by
  intro owed paid ledger patterns others
  have kept : ledger.KeptOnce := by
    refine ⟨by decide +kernel, ?_⟩
    intro entry mem
    rcases List.mem_pair.mp mem with rfl | rfl <;> decide +kernel
  have covered : ledger.covered patterns = [(owed.address, owed), (paid.address, paid)] := by
    decide +kernel
  obtain ⟨-, listed, each, reordered⟩ := totalsOf_once.1 ledger kept patterns
  rw [covered] at listed each
  refine ⟨kept, (listed _).mpr ?_, fun euro => ?_, fun total mem usd => ?_,
    reordered others (by simp [patterns, others])⟩
  · exact ⟨_, List.mem_cons_self, by decide +kernel⟩
  · obtain ⟨entry, mem, nonzero⟩ := (listed _).mp euro
    rcases List.mem_pair.mp mem with rfl | rfl <;> exact nonzero (by decide +kernel)
  · obtain ⟨balance, -, named⟩ := each total mem
    rw [usd] at balance
    refine ⟨balance.trans (by decide +kernel), (named _).mpr ?_, (named _).mpr ?_⟩ <;> rw [usd]
    · exact ⟨_, List.mem_cons_self, rfl, by decide +kernel⟩
    · exact ⟨_, List.mem_cons_of_mem _ List.mem_cons_self, rfl, by decide +kernel⟩

end Ledger

end DoubleEntry
