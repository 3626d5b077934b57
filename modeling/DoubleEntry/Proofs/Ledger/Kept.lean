import DoubleEntry.Proofs.Ledger.Requests

/-!
# Well-kept books

In every ledger in use no account is kept twice, all accounts are kept under their full
addresses, and no account has two entries for one asset.
-/

namespace DoubleEntry.Ledger

/-- Accounts and entries are kept once each, the accounts under their full addresses. -/
structure IsKept (ledger : Ledger) : Prop where
  distinct : ledger.accounts.keys.Nodup
  full : ∀ address ∈ ledger.accounts.keys, Address.normalize address = address
  entries : ∀ entry ∈ ledger.accounts, entry.2.balances.keys.Nodup

variable {ledger : Ledger}

/-- Only the accounts matter. -/
theorem IsKept.congr {after : Ledger} (kept : ledger.IsKept)
    (same : after.accounts = ledger.accounts) : after.IsKept := by
  constructor
  · rw [same]
    exact kept.distinct
  · rw [same]
    exact kept.full
  · rw [same]
    exact kept.entries

theorem IsKept.put (kept : ledger.IsKept) {address : Text}
    (full : Address.normalize address = address) {account : Account}
    (distinct : account.balances.keys.Nodup) :
    IsKept { ledger with accounts := ledger.accounts.put address account } where
  distinct := Entries.nodup_keys_put kept.distinct _ _
  full := by
    intro other hother
    rcases (Entries.hasKey_put _ _ _ _).mp ((Entries.hasKey_iff_mem _ _).mpr hother) with
      rfl | old
    · exact full
    · exact kept.full other ((Entries.hasKey_iff_mem _ _).mp old)
  entries := by
    intro entry hentry
    rcases Entries.mem_put hentry with rfl | old
    · exact distinct
    · exact kept.entries entry old

theorem IsKept.openAccount (kept : ledger.IsKept) (address : Text) :
    (ledger.openAccount address).IsKept := by
  unfold Ledger.openAccount
  dsimp only
  split
  · exact kept
  · exact kept.put (Address.normalize_normalize address) List.nodup_nil

theorem IsKept.updateAccount (kept : ledger.IsKept) (address : Text)
    {change : Account → Account}
    (keeps : ∀ account, account.balances.keys.Nodup → (change account).balances.keys.Nodup) :
    (ledger.updateAccount address change).IsKept := by
  cases found : ledger.accounts.get? address with
  | none =>
      rw [updateAccount_of_none _ found]
      exact kept
  | some account =>
      have mem := Entries.mem_of_get? found
      -- An account that is found has a full address, so the write keeps all addresses full.
      rw [updateAccount_of_some _ found]
      exact kept.put (kept.full address (List.mem_map_of_mem mem))
        (keeps account (kept.entries _ mem))

theorem IsKept.transferAll (kept : ledger.IsKept) (postings : List Posting) :
    (ledger.transferAll postings).IsKept := by
  apply transferAll_keeps _ _ kept
  · intro earlier address kept
    exact kept.openAccount address
  · intro earlier address asset amount kept
    apply kept.updateAccount
    intro account distinct
    exact Entries.nodup_keys_put distinct asset amount

theorem IsKept.move {after : Ledger} (move : Move ledger after) (kept : ledger.IsKept) :
    after.IsKept := by
  cases move with
  | commit h =>
      rw [commit_frame h]
      exact (kept.transferAll _).congr rfl
  | openAccount address => exact kept.openAccount address
  | annotate address key value =>
      apply IsKept.updateAccount
      · exact kept.openAccount _
      · exact fun _ distinct => distinct
  | advance h =>
      rw [advance_ok h]
      exact kept.congr rfl

theorem isKept_cleared (ledger : Ledger) : ledger.cleared.IsKept := by
  apply IsKept.openAccount
  constructor
  · exact List.nodup_nil
  · simp [Entries.keys]
  · simp

theorem isKept_serveAll (name : Data) (clock : Option Moment) (verbose : Bool)
    (requests : List Request) : ((create name clock verbose).serveAll requests).IsKept :=
  serveAll_keeps isKept_cleared IsKept.move (isKept_cleared _) requests

/-- In well-kept books an account that is listed is the one that is looked up. -/
theorem IsKept.balances_of_mem (kept : ledger.IsKept) {address : Text} {account : Account}
    (h : (address, account) ∈ ledger.accounts) : ledger.balances address = account.balances := by
  rw [balances_eq, kept.full address (List.mem_map_of_mem h), Entries.get?_of_mem kept.distinct h]
  rfl

/-- Who has an entry for an asset is listed among the accounts. -/
theorem hasEntry_iff (ledger : Ledger) (address asset : Text) :
    ledger.hasEntry address asset ↔
      ∃ account, ledger.accounts.get? (Address.normalize address) = some account ∧
        account.balances.hasKey asset = true := by
  rw [hasEntry, balances_eq]
  cases ledger.accounts.get? (Address.normalize address) with
  | none => simp [Entries.hasKey]
  | some account => simp

/-- An asset is listed somewhere just when some account has an entry for it. -/
theorem IsKept.exists_hasEntry (kept : ledger.IsKept) (asset : Text) :
    (∃ entry ∈ ledger.accounts, entry.2.balances.hasKey asset = true) ↔
      ∃ address, ledger.hasEntry address asset := by
  constructor
  · rintro ⟨⟨address, account⟩, mem, listed⟩
    refine ⟨address, ?_⟩
    rw [hasEntry, kept.balances_of_mem mem]
    exact listed
  · rintro ⟨address, h⟩
    obtain ⟨account, found, listed⟩ := (ledger.hasEntry_iff address asset).mp h
    exact ⟨_, Entries.mem_of_get? found, listed⟩

end DoubleEntry.Ledger
