import DoubleEntry.Proofs.Ledger.Audit
import DoubleEntry.Proofs.Ledger.Explained
import DoubleEntry.Proofs.Ledger.Kept

/-!
# Conservation

What one account gives another one gets. No transaction and no script changes the sum
of an asset over all accounts, whatever this sum was before; so an audit of a ledger in
use finds every sum to be zero.
-/

namespace DoubleEntry.Ledger

/-- The sum of the balances of an asset over all accounts. -/
def supply (ledger : Ledger) (asset : Text) : Int :=
  (ledger.accounts.map fun entry => entry.2.balance asset).sum

variable (ledger : Ledger)

/-! ## What writes do to the supply -/

@[simp] theorem supply_openAccount (address asset : Text) :
    (ledger.openAccount address).supply asset = ledger.supply asset := by
  unfold openAccount
  dsimp only
  split
  · rfl
  · next missing =>
      have absent : ledger.accounts.get? (Address.normalize address) = none := by
        simpa [Entries.hasKey] using missing
      have sum := Entries.sum_put (fun account => account.balance asset) ledger.accounts
        (Address.normalize address) (Account.fresh (Address.normalize address) ledger.now)
      have empty : (Account.fresh (Address.normalize address) ledger.now).balance asset = 0 := rfl
      rw [absent, Option.map_none, Option.getD_none, empty] at sum
      rw [supply, sum, supply]
      omega

/-- A change of one account changes the supply as it changes the account. -/
theorem supply_updateAccount {address : Text} {account : Account}
    (found : ledger.accounts.get? address = some account) (change : Account → Account)
    (asset : Text) :
    (ledger.updateAccount address change).supply asset =
      ledger.supply asset + (change account).balance asset - account.balance asset := by
  have sum := Entries.sum_put (fun account => account.balance asset) ledger.accounts address
    (change account)
  rw [updateAccount_of_some ledger found, supply, sum, found]
  rfl

@[simp] theorem supply_annotate (address asset : Text) (key value : Data) :
    (ledger.annotate address key value).supply asset = ledger.supply asset := by
  rw [← supply_openAccount ledger (Address.normalize address)]
  unfold annotate
  dsimp only
  cases found : (ledger.openAccount (Address.normalize address)).accounts.get?
      (Address.normalize address) with
  | none => rw [updateAccount_of_none _ found]
  | some account =>
      have same : Account.balance
          { account with metadata := account.metadata.put key value } asset =
        account.balance asset := rfl
      rw [supply_updateAccount _ found, same]
      omega

theorem supply_adjust {address : Text} (full : Address.normalize address = address)
    (present : ledger.accounts.hasKey address = true) (asset other : Text) (amount : Int) :
    (ledger.adjust address asset amount).supply other =
      ledger.supply other + if asset = other then amount else 0 := by
  obtain ⟨account, found⟩ := (Entries.hasKey_iff _ _).mp present
  have before : ledger.balance address asset = account.balance asset := by
    rw [balance, account?, full, found]
  rw [adjust, before, setBalance, supply_updateAccount ledger found]
  unfold Account.balance
  dsimp only
  rw [Entries.get?_put]
  split
  · next h =>
      subst h
      rw [Option.getD_some]
      omega
  · omega

/-- What a transfer takes from its source it gives to its destination. -/
theorem supply_transfer {posting : Posting} (full : posting.isFull) (asset : Text) :
    (ledger.transfer posting).supply asset = ledger.supply asset := by
  have there : ((ledger.openEnds posting).adjust posting.source posting.asset
      (-posting.amount)).accounts.hasKey posting.destination = true := by
    rw [hasKey_adjust]
    exact hasKey_destination ledger full
  have opened : (ledger.openEnds posting).supply asset = ledger.supply asset := by
    unfold openEnds
    rw [supply_openAccount, supply_openAccount]
  rw [transfer, supply_adjust _ full.destination there,
    supply_adjust _ full.source (hasKey_source ledger full), opened]
  split <;> omega

theorem supply_transferAll {postings : List Posting}
    (full : ∀ posting ∈ postings, posting.isFull) (asset : Text) :
    (ledger.transferAll postings).supply asset = ledger.supply asset := by
  induction postings generalizing ledger with
  | nil => rfl
  | cons posting rest ih =>
      rw [transferAll_cons, ih _ fun p hp => full p (List.mem_cons_of_mem _ hp),
        supply_transfer ledger (full posting List.mem_cons_self)]

/-! ## Moves conserve the supply -/

variable {ledger}

theorem supply_move {after : Ledger} (move : Move ledger after) (asset : Text) :
    after.supply asset = ledger.supply asset := by
  cases move with
  | commit h =>
      rw [commit_frame h]
      exact supply_transferAll ledger (commit_isFull h) asset
  | openAccount address => exact supply_openAccount ledger address asset
  | annotate address key value => exact supply_annotate ledger address asset key value
  | advance h =>
      rw [advance_ok h]
      rfl

theorem supply_moves {after : Ledger} (moves : ledger.Moves after) (asset : Text) :
    after.supply asset = ledger.supply asset :=
  Moves.keep (P := fun later => later.supply asset = ledger.supply asset)
    (fun move same => (supply_move move asset).trans same) moves rfl

theorem supply_cleared (ledger : Ledger) (asset : Text) : ledger.cleared.supply asset = 0 := by
  unfold cleared
  rw [supply_openAccount]
  rfl

theorem supply_serveAll (name : Data) (clock : Option Moment) (verbose : Bool)
    (requests : List Request) (asset : Text) :
    ((create name clock verbose).serveAll requests).supply asset = 0 :=
  serveAll_keeps (P := fun ledger => ledger.supply asset = 0)
    (fun ledger => supply_cleared ledger asset)
    (fun move zero => (supply_move move asset).trans zero) (supply_cleared _ asset) requests

/-! ## Audits -/

/-- In well-kept books an audit finds the supply of each asset. -/
theorem audit_supply (kept : ledger.IsKept) (asset : Text) :
    (ledger.audit.supplies.get? asset).getD 0 = ledger.supply asset := by
  have each : ∀ entry ∈ ledger.accounts,
      Audit.sumOf entry.2.balances asset = entry.2.balance asset :=
    fun entry mem => Audit.sumOf_entries (kept.entries entry mem) asset
  calc (ledger.audit.supplies.get? asset).getD 0
      = Audit.sumOf ledger.audited asset := by
        rw [audit_supplies, Audit.get?_addUp, Entries.get?_nil, Option.getD_none, Int.zero_add]
    _ = (ledger.accounts.map fun entry => Audit.sumOf entry.2.balances asset).sum := by
        rw [Audit.sumOf_perm ledger.audited_perm, Audit.sumOf_flatMap]
    _ = ledger.supply asset := by
        rw [List.map_congr_left each, supply]

section Balanced

variable (kept : ledger.IsKept) (balanced : ∀ asset, ledger.supply asset = 0)
include kept balanced

theorem discrepancies_audit : ledger.audit.discrepancies = [] := by
  apply Audit.discrepancies_eq_nil
  intro asset total mem
  have sum := audit_supply kept asset
  rw [Entries.get?_of_mem (nodup_audit ledger) mem, balanced] at sum
  exact sum

/-- Where all supplies are zero, an audit has a zero for each asset of the log. -/
theorem get?_audit (explained : ledger.Explained) (asset : Text) :
    ledger.audit.supplies.get? asset =
      if ∃ posting ∈ ledger.posted, posting.asset = asset then some 0 else none := by
  have sum := audit_supply kept asset
  have known : ledger.audit.supplies.hasKey asset = true ↔
      ∃ posting ∈ ledger.posted, posting.asset = asset := by
    rw [hasKey_audit, kept.exists_hasEntry, explained.exists_hasEntry]
  rw [balanced] at sum
  split
  · next moved =>
      obtain ⟨total, found⟩ := (Entries.hasKey_iff _ _).mp (known.mpr moved)
      rw [found] at sum ⊢
      exact congrArg some sum
  · next unmoved =>
      have absent := mt known.mp unmoved
      simpa [Entries.hasKey] using absent

end Balanced

/-- No transaction and no script, be it granted or not, changes the supply of an asset in
any ledger. An audit of a ledger in use is therefore valid: it knows just the assets that
were moved since the ledger was last emptied, each with the sum zero. -/
theorem supply_conserved :
    (∀ (ledger : Ledger) (proposal : Proposal) (asset : Text),
      (ledger.commitAloud proposal).2.supply asset = ledger.supply asset) ∧
    (∀ (ledger : Ledger) (text : Text) (vars : Variables) (asset : Text),
      (ledger.run text vars).2.supply asset = ledger.supply asset) ∧
    ∀ (name : Data) (clock : Option Moment) (verbose : Bool) (requests : List Request),
      let fresh := create name clock verbose
      let audit := (fresh.serveAll requests).audit
      audit.isValid = true ∧ audit.discrepancies = [] ∧ audit.supplies.keys.Nodup ∧
        ∀ asset, audit.supplies.get? asset =
          if ∃ posting ∈ fresh.postedSince [] requests, posting.asset = asset then some 0
          else none := by
  refine ⟨?_, ?_, ?_⟩
  · intro ledger proposal asset
    exact supply_moves (commitAloud_moves ledger proposal) asset
  · intro ledger text vars asset
    exact supply_moves (run_moves ledger text vars) asset
  · intro name clock verbose requests fresh audit
    have kept := isKept_serveAll name clock verbose requests
    have explained := explained_serveAll name clock verbose requests
    have balanced := supply_serveAll name clock verbose requests
    have history : (fresh.serveAll requests).posted = fresh.postedSince [] requests := by
      have start : fresh.posted = [] := posted_cleared _
      rw [posted_serveAll, start]
    have clean : audit.discrepancies = [] := discrepancies_audit kept balanced
    refine ⟨?_, clean, nodup_audit _, ?_⟩
    · rw [Audit.isValid, clean]
      rfl
    · intro asset
      rw [← history]
      exact get?_audit kept balanced explained asset

end DoubleEntry.Ledger
