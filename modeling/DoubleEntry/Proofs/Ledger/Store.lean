import DoubleEntry.Proofs.Ledger.Explained
import DoubleEntry.Proofs.Ledger.Kept
import Mathlib.Data.List.Nodup

/-!
# The shape of the store

Transactions are numbered by their places in the log, and accounts carry the addresses
under which they are kept, the outside world first. The look-up by number and the count of
accounts rest on this.
-/

namespace DoubleEntry.Ledger

/-- Transactions are numbered by their places in the log, counted from one, and the next
number is that of the next place. -/
structure IsNumbered (ledger : Ledger) : Prop where
  place : ∀ (place : Nat) (tx : Transaction), ledger.log[place]? = some tx → tx.id = place + 1
  next : ledger.nextId = ledger.log.length + 1

/-- Accounts carry the addresses under which they are kept, and the outside world is the
first of them. -/
structure IsAddressed (ledger : Ledger) : Prop where
  own : ∀ entry ∈ ledger.accounts, entry.2.address = entry.1
  outside : ledger.accounts.keys.head? = some Address.world

variable {ledger : Ledger}

/-! ## Numbers and places -/

/-- Only the log and the next number matter. -/
theorem IsNumbered.congr {after : Ledger} (numbered : ledger.IsNumbered)
    (log : after.log = ledger.log) (next : after.nextId = ledger.nextId) : after.IsNumbered := by
  constructor
  · rw [log]
    exact numbered.place
  · rw [log, next]
    exact numbered.next

theorem isNumbered_cleared (ledger : Ledger) : ledger.cleared.IsNumbered := by
  unfold cleared
  rw [openAccount_frame]
  constructor
  · intro place tx found
    cases found
  · rfl

/-- A commit uses up the next number for the next place. -/
theorem IsNumbered.commit {after : Ledger} {proposal : Proposal} {tx : Transaction}
    (numbered : ledger.IsNumbered) (h : ledger.commit proposal = .ok (tx, after)) :
    after.IsNumbered := by
  have next := numbered.next
  have number : tx.id = ledger.log.length + 1 := by
    rw [(commit_ok h).1]
    change (ledger.nextId : Int) = _
    omega
  rw [commit_frame h]
  constructor
  · intro place found there
    rcases Nat.lt_or_ge place ledger.log.length with old | new
    · rw [List.getElem?_append_left old] at there
      exact numbered.place place found there
    · rw [List.getElem?_append_right new] at there
      obtain ⟨here, same⟩ := List.getElem?_eq_some_iff.mp there
      obtain rfl : found = tx := by simpa using same.symm
      rw [List.length_singleton] at here
      omega
  · change ledger.nextId + 1 = (ledger.log ++ [tx]).length + 1
    rw [List.length_append, List.length_singleton]
    omega

theorem IsNumbered.move {after : Ledger} (move : Move ledger after)
    (numbered : ledger.IsNumbered) : after.IsNumbered := by
  cases move with
  | commit h => exact numbered.commit h
  | openAccount address =>
      apply numbered.congr
      · rw [openAccount_frame]
      · rw [openAccount_frame]
  | annotate address key value =>
      apply numbered.congr (log_annotate ledger address key value)
      unfold annotate
      rw [updateAccount_frame, openAccount_frame]
  | advance h =>
      rw [advance_ok h]
      exact numbered.congr rfl rfl

theorem isNumbered_serveAll (name : Data) (clock : Option Moment) (verbose : Bool)
    (requests : List Request) : ((create name clock verbose).serveAll requests).IsNumbered :=
  serveAll_keeps isNumbered_cleared IsNumbered.move (isNumbered_cleared _) requests

section Numbered

variable (numbered : ledger.IsNumbered)
include numbered

/-- A number finds just the transaction that has it. -/
theorem transaction?_eq_some_iff (id : Int) (tx : Transaction) :
    ledger.transaction? id = some tx ↔ tx ∈ ledger.log ∧ tx.id = id := by
  constructor
  · intro found
    unfold transaction? at found
    split at found
    · next inside =>
        obtain ⟨low, -⟩ := Bool.and_eq_true_iff.mp inside
        rw [decide_eq_true_eq] at low
        have number := numbered.place _ tx found
        exact ⟨List.mem_of_getElem? found, by omega⟩
    · cases found
  · rintro ⟨mem, rfl⟩
    obtain ⟨place, found⟩ := List.mem_iff_getElem?.mp mem
    have number := numbered.place place tx found
    obtain ⟨inside, -⟩ := List.getElem?_eq_some_iff.mp found
    have counted : (tx.id - 1).toNat = place := by omega
    have within : (decide (1 ≤ tx.id) && decide (tx.id ≤ ledger.log.length)) = true := by
      rw [Bool.and_eq_true, decide_eq_true_eq, decide_eq_true_eq]
      omega
    rw [transaction?, if_pos within, counted]
    exact found

/-- No two transactions of the log have one number. -/
theorem nodup_ids : (ledger.log.map Transaction.id).Nodup := by
  apply List.nodup_iff_getElem?_ne_getElem?.mpr
  intro place other before inside same
  rw [List.length_map] at inside
  rw [List.getElem?_map, List.getElem?_map, List.getElem?_eq_getElem inside,
    List.getElem?_eq_getElem (Nat.lt_trans before inside)] at same
  have here := numbered.place place _ (List.getElem?_eq_getElem (Nat.lt_trans before inside))
  have there := numbered.place other _ (List.getElem?_eq_getElem inside)
  have equal := Option.some.inj same
  omega

end Numbered

/-! ## Keys and addresses -/

/-- Only the accounts matter. -/
theorem IsAddressed.congr {after : Ledger} (addressed : ledger.IsAddressed)
    (same : after.accounts = ledger.accounts) : after.IsAddressed := by
  constructor
  · rw [same]
    exact addressed.own
  · rw [same]
    exact addressed.outside

/-- An account is written under its own address, behind those that are there. -/
theorem IsAddressed.put (addressed : ledger.IsAddressed) {address : Text} {account : Account}
    (own : account.address = address) :
    IsAddressed { ledger with accounts := ledger.accounts.put address account } where
  own := by
    intro entry mem
    rcases Entries.mem_put mem with rfl | old
    · exact own
    · exact addressed.own entry old
  outside := by
    have first := addressed.outside
    rw [Entries.keys_put]
    split
    · exact first
    · rw [List.head?_append, first]
      rfl

theorem IsAddressed.openAccount (addressed : ledger.IsAddressed) (address : Text) :
    (ledger.openAccount address).IsAddressed := by
  unfold Ledger.openAccount
  dsimp only
  split
  · exact addressed
  · exact addressed.put rfl

theorem IsAddressed.updateAccount (addressed : ledger.IsAddressed) (address : Text)
    {change : Account → Account} (keeps : ∀ account, (change account).address = account.address) :
    (ledger.updateAccount address change).IsAddressed := by
  cases found : ledger.accounts.get? address with
  | none =>
      rw [updateAccount_of_none _ found]
      exact addressed
  | some account =>
      rw [updateAccount_of_some _ found]
      apply addressed.put
      rw [keeps]
      exact addressed.own _ (Entries.mem_of_get? found)

theorem IsAddressed.transferAll (addressed : ledger.IsAddressed) (postings : List Posting) :
    (ledger.transferAll postings).IsAddressed := by
  apply transferAll_keeps _ _ addressed
  · intro earlier address addressed
    exact addressed.openAccount address
  · intro earlier address asset amount addressed
    apply addressed.updateAccount
    intro account
    rfl

theorem IsAddressed.move {after : Ledger} (move : Move ledger after)
    (addressed : ledger.IsAddressed) : after.IsAddressed := by
  cases move with
  | commit h =>
      rw [commit_frame h]
      exact (addressed.transferAll _).congr rfl
  | openAccount address => exact addressed.openAccount address
  | annotate address key value =>
      apply IsAddressed.updateAccount
      · exact addressed.openAccount _
      · intro account
        rfl
  | advance h =>
      rw [advance_ok h]
      exact addressed.congr rfl

theorem isAddressed_cleared (ledger : Ledger) : ledger.cleared.IsAddressed := by
  have alone : ledger.cleared.accounts =
      [(Address.world, Account.fresh Address.world ledger.now)] := rfl
  constructor
  · rw [alone]
    intro entry mem
    rw [List.mem_singleton.mp mem]
    rfl
  · rw [alone]
    rfl

theorem isAddressed_serveAll (name : Data) (clock : Option Moment) (verbose : Bool)
    (requests : List Request) : ((create name clock verbose).serveAll requests).IsAddressed :=
  serveAll_keeps isAddressed_cleared IsAddressed.move (isAddressed_cleared _) requests

/-- Where the outside world is the first account and kept once, the others are counted by
leaving out one. -/
theorem accountCount_eq (kept : ledger.IsKept) (addressed : ledger.IsAddressed) :
    ledger.accountCount = (ledger.accounts.keys.filter fun key => key ≠ Address.world).length := by
  have length : ledger.accounts.keys.length = ledger.accounts.length := List.length_map _
  obtain ⟨others, listed⟩ := List.head?_eq_some_iff.mp addressed.outside
  have distinct := kept.distinct
  rw [listed, List.nodup_cons] at distinct
  have rest : (others.filter fun key => key ≠ Address.world) = others := by
    apply List.filter_eq_self.mpr
    intro key mem
    apply decide_eq_true
    rintro rfl
    exact distinct.1 mem
  rw [listed, List.length_cons] at length
  rw [accountCount, listed, List.filter_cons_of_neg (by simp), rest]
  omega

/-- Both sides of a logged posting are accounts with an entry for what it moved. -/
theorem Explained.sides (explained : ledger.Explained) {posting : Posting}
    (mem : posting ∈ ledger.posted) {address : Text}
    (side : address = posting.source ∨ address = posting.destination) :
    Address.normalize address = address ∧
      ∃ account, ledger.accounts.get? address = some account ∧
        account.balances.hasKey posting.asset = true := by
  have full : Address.normalize address = address := by
    rcases side with rfl | rfl
    · exact (explained.full posting mem).source
    · exact (explained.full posting mem).destination
  have concerned : posting.concerns (Address.normalize address) posting.asset := by
    rw [full]
    exact ⟨rfl, side.imp Eq.symm Eq.symm⟩
  have listed := (explained.entry address posting.asset).mpr ⟨posting, mem, concerned⟩
  rw [hasEntry_iff, full] at listed
  exact ⟨full, listed⟩

/-! ## Every ledger in use -/

/-- In every ledger in use, transactions are numbered by their places in the log, so that
a number finds the one transaction that has it; accounts are kept once each under their own
full addresses, the outside world first; and both sides of every logged posting are
accounts with an entry for its asset. No request but that to empty the ledger takes
anything from the log. -/
theorem store_represented (name : Data) (clock : Option Moment) (verbose : Bool)
    (requests : List Request) :
    let ledger := (create name clock verbose).serveAll requests
    (∀ (place : Nat) (tx : Transaction), ledger.log[place]? = some tx → tx.id = place + 1) ∧
      ledger.nextId = ledger.log.length + 1 ∧
      (ledger.log.map Transaction.id).Nodup ∧
      (∀ (id : Int) (tx : Transaction),
        ledger.transaction? id = some tx ↔ tx ∈ ledger.log ∧ tx.id = id) ∧
      (∀ key account, (key, account) ∈ ledger.accounts →
        (∃ bare, key = .char '@' :: bare) ∧ account.address = key) ∧
      ledger.accounts.keys.Nodup ∧
      ledger.accounts.keys.head? = some Address.world ∧
      ledger.accountCount =
        (ledger.accounts.keys.filter fun key => key ≠ Address.world).length ∧
      (∀ tx ∈ ledger.log, ∀ posting ∈ tx.postings,
        ∀ address ∈ [posting.source, posting.destination],
          Address.normalize address = address ∧
            ∃ account, ledger.accounts.get? address = some account ∧
              account.balances.hasKey posting.asset = true) ∧
      ∀ request : Request, request ≠ .reset → ledger.log <+: (ledger.serve request).log := by
  intro ledger
  have numbered : ledger.IsNumbered := isNumbered_serveAll name clock verbose requests
  have addressed : ledger.IsAddressed := isAddressed_serveAll name clock verbose requests
  have kept : ledger.IsKept := isKept_serveAll name clock verbose requests
  have explained : ledger.Explained := explained_serveAll name clock verbose requests
  refine ⟨numbered.place, numbered.next, nodup_ids numbered, transaction?_eq_some_iff numbered,
    ?_, kept.distinct, addressed.outside, accountCount_eq kept addressed, ?_, ?_⟩
  · intro key account mem
    constructor
    · rw [← kept.full key (List.mem_map_of_mem mem)]
      exact Address.normalize_eq_cons key
    · exact addressed.own _ mem
  · intro tx logged posting mem address side
    apply explained.sides (List.mem_flatMap.mpr ⟨tx, logged, mem⟩)
    simpa using side
  · intro request kept
    exact log_serve ledger kept

/-- A payment whose addresses are spelled without the sigil. -/
def unsigned : Proposal :=
  { postings := [⟨"world", "a", "USD/2", 10⟩]
    metadata := []
    overdrafts := []
    reference := .null }

/-- The payment is found under its number, and both of its sides under their full
addresses; it stays in the log. -/
theorem store_of_unsigned :
    let ledger := (create (.text "main") none false).serveAll [.commit unsigned]
    ∃ tx posting, ledger.log[0]? = some tx ∧ tx.id = 1 ∧ ledger.transaction? 1 = some tx ∧
      posting ∈ tx.postings ∧ Address.normalize posting.source = posting.source ∧
      (∃ account : Account, (("@a" : Text), account) ∈ ledger.accounts ∧
        account.address = "@a") ∧
      tx ∈ (ledger.serve (.openAccount "b")).log := by
  intro ledger
  obtain ⟨place, -, -, number, own, -, -, -, sides, kept⟩ :=
    store_represented (.text "main") none false [.commit unsigned]
  have logged : (ledger.log[0]?.map fun tx => tx.postings.isEmpty) = some false := by
    decide +kernel
  have known : ("@a" : Text) ∈ ledger.accounts.keys := by decide +kernel
  obtain ⟨tx, found, some_⟩ := Option.map_eq_some_iff.mp logged
  obtain ⟨posting, rest, listed⟩ := List.exists_cons_of_ne_nil (List.isEmpty_eq_false_iff.mp some_)
  obtain ⟨⟨key, account⟩, there, rfl⟩ := List.mem_map.mp known
  have mem : tx ∈ ledger.log := List.mem_of_getElem? found
  have made : posting ∈ tx.postings := by
    rw [listed]
    exact List.mem_cons_self
  have numbered : tx.id = 1 := place 0 tx found
  refine ⟨tx, posting, found, numbered, (number 1 tx).mpr ⟨mem, numbered⟩, made, ?_, ?_, ?_⟩
  · exact (sides tx mem posting made _ List.mem_cons_self).1
  · exact ⟨account, there, (own _ account there).2⟩
  · exact (kept (.openAccount "b") (by simp)).subset mem

end DoubleEntry.Ledger
