import DoubleEntry.Proofs.Ledger.Requests

/-!
# The log explains the balances

Balances and log are kept apart. Still every balance is what the postings of the log
credit to the account, less what they debit from it, and an account has an entry for an
asset just when a posting of the log names both.
-/

namespace DoubleEntry

namespace Posting

/-- The sum of an asset over the postings that have an address on one side. -/
def moved (side : Posting → Text) (postings : List Posting) (address asset : Text) : Int :=
  ((postings.filter fun posting => side posting = address ∧ posting.asset = asset).map
    fun posting => (posting.amount : Int)).sum

/-- What postings put into an account. -/
def credited : List Posting → Text → Text → Int := moved Posting.destination

/-- What postings take from an account. -/
def debited : List Posting → Text → Text → Int := moved Posting.source

/-- Whether a posting moves an asset from or to an address. -/
def concerns (posting : Posting) (address asset : Text) : Prop :=
  posting.asset = asset ∧ (posting.source = address ∨ posting.destination = address)

@[simp] theorem moved_nil (side : Posting → Text) (address asset : Text) :
    moved side [] address asset = 0 := rfl

theorem moved_cons (side : Posting → Text) (posting : Posting) (rest : List Posting)
    (address asset : Text) :
    moved side (posting :: rest) address asset =
      (if side posting = address ∧ posting.asset = asset then (posting.amount : Int) else 0) +
        moved side rest address asset := by
  by_cases h : side posting = address ∧ posting.asset = asset
  · simp [moved, h]
  · simp [moved, h]

theorem moved_append (side : Posting → Text) (first second : List Posting)
    (address asset : Text) :
    moved side (first ++ second) address asset =
      moved side first address asset + moved side second address asset := by
  simp [moved]

theorem moved_of_others {postings : List Posting} {asset : Text}
    (others : ∀ posting ∈ postings, posting.asset ≠ asset) (side : Posting → Text) (address : Text) :
    moved side postings address asset = 0 := by
  have none : postings.filter (fun posting => side posting = address ∧ posting.asset = asset) = [] := by
    refine List.filter_eq_nil_iff.mpr fun posting mem => ?_
    rw [decide_eq_true_eq]
    exact fun both => others posting mem both.2
  rw [moved, none]
  rfl

end Posting

namespace Ledger

open Posting (credited debited)

variable (ledger : Ledger)

/-! ## Postings made in order -/

section Full

variable {postings : List Posting} (full : ∀ posting ∈ postings, posting.isFull)
include full

theorem balance_transferAll (address asset : Text) :
    (ledger.transferAll postings).balance address asset =
      ledger.balance address asset + credited postings (Address.normalize address) asset -
        debited postings (Address.normalize address) asset := by
  induction postings generalizing ledger with
  | nil => simp [credited, debited]
  | cons posting rest ih =>
      have first := balance_transfer ledger (full posting List.mem_cons_self) address asset
      have later := ih (ledger.transfer posting) fun p hp => full p (List.mem_cons_of_mem _ hp)
      simp only [credited, debited] at later ⊢
      rw [transferAll_cons, later, first, Posting.moved_cons, Posting.moved_cons]
      omega

theorem hasEntry_transferAll (address asset : Text) :
    (ledger.transferAll postings).hasEntry address asset ↔
      ledger.hasEntry address asset ∨
        ∃ posting ∈ postings, posting.concerns (Address.normalize address) asset := by
  induction postings generalizing ledger with
  | nil => simp
  | cons posting rest ih =>
      have first := hasEntry_transfer ledger (full posting List.mem_cons_self) address asset
      have later := ih (ledger.transfer posting) fun p hp => full p (List.mem_cons_of_mem _ hp)
      rw [transferAll_cons, later, first, List.exists_mem_cons_iff, or_assoc, or_left_comm]
      rfl

end Full

/-! ## The invariant -/

/-- The log accounts for all balances and all entries, and its postings carry full
addresses. -/
structure Explained : Prop where
  balance : ∀ address asset, ledger.balance address asset =
    credited ledger.posted (Address.normalize address) asset -
      debited ledger.posted (Address.normalize address) asset
  entry : ∀ address asset, ledger.hasEntry address asset ↔
    ∃ posting ∈ ledger.posted, posting.concerns (Address.normalize address) asset
  full : ∀ posting ∈ ledger.posted, posting.isFull

theorem balances_cleared (address : Text) : ledger.cleared.balances address = [] := by
  unfold cleared
  rw [balances_openAccount, balances_eq]
  rfl

theorem posted_cleared : ledger.cleared.posted = [] := by
  unfold cleared posted
  rw [openAccount_frame]
  rfl

theorem explained_cleared : ledger.cleared.Explained where
  balance := by
    intro address asset
    rw [balance_eq, balances_cleared, posted_cleared]
    rfl
  entry := by
    intro address asset
    rw [hasEntry, balances_cleared, posted_cleared]
    simp [Entries.hasKey]
  full := by
    rw [posted_cleared]
    simp

variable {ledger}

/-- Only balances and log matter. -/
theorem Explained.congr {after : Ledger} (explained : ledger.Explained)
    (balances : ∀ address, after.balances address = ledger.balances address)
    (log : after.log = ledger.log) : after.Explained where
  balance := by
    intro address asset
    rw [balance_eq, balances, ← balance_eq, posted, log]
    exact explained.balance address asset
  entry := by
    intro address asset
    rw [hasEntry, balances, posted, log]
    exact explained.entry address asset
  full := by
    rw [posted, log]
    exact explained.full

/-- A commit adds the same postings to the balances and to the log. -/
theorem Explained.commit {after : Ledger} {proposal : Proposal} {tx : Transaction}
    (explained : ledger.Explained) (h : ledger.commit proposal = .ok (tx, after)) :
    after.Explained := by
  have full := commit_isFull h
  have logged : after.posted = ledger.posted ++ tx.postings := by
    rw [commit_frame h]
    simp [posted]
  have same : ∀ address, after.balances address =
      (ledger.transferAll tx.postings).balances address := by
    intro address
    rw [commit_frame h]
    rfl
  constructor
  · intro address asset
    have before := explained.balance address asset
    rw [balance_eq, same, ← balance_eq, balance_transferAll ledger full, before, logged]
    simp only [credited, debited, Posting.moved_append]
    omega
  · intro address asset
    have before := explained.entry address asset
    rw [hasEntry, same, ← hasEntry, hasEntry_transferAll ledger full, before, logged]
    simp only [List.mem_append, or_and_right, exists_or]
  · rw [logged]
    intro posting hposting
    rcases List.mem_append.mp hposting with old | new
    · exact explained.full posting old
    · exact full posting new

theorem Explained.move {after : Ledger} (move : Move ledger after) (explained : ledger.Explained) :
    after.Explained := by
  cases move with
  | commit h => exact explained.commit h
  | openAccount address =>
      apply explained.congr
      · exact balances_openAccount ledger address
      · rw [openAccount_frame]
  | annotate address key value =>
      apply explained.congr
      · intro other
        exact balances_annotate ledger address other key value
      · exact log_annotate ledger address key value
  | advance h =>
      rw [advance_ok h]
      exact explained.congr (fun _ => rfl) rfl

/-- An asset has an entry somewhere just when a posting of the log moves it. -/
theorem Explained.exists_hasEntry (explained : ledger.Explained) (asset : Text) :
    (∃ address, ledger.hasEntry address asset) ↔
      ∃ posting ∈ ledger.posted, posting.asset = asset := by
  constructor
  · rintro ⟨address, h⟩
    obtain ⟨posting, mem, concerned⟩ := (explained.entry address asset).mp h
    exact ⟨posting, mem, concerned.1⟩
  · -- The log carries full addresses, so the source of a posting is looked up as it stands.
    rintro ⟨posting, mem, moved⟩
    refine ⟨posting.source, (explained.entry _ asset).mpr ⟨posting, mem, moved, Or.inl ?_⟩⟩
    exact (explained.full posting mem).source.symm

theorem explained_serveAll (name : Data) (clock : Option Moment) (verbose : Bool)
    (requests : List Request) : ((create name clock verbose).serveAll requests).Explained :=
  serveAll_keeps explained_cleared Explained.move (explained_cleared _) requests

/-- After any requests the balance of an account is what the log credits to it less what
the log debits from it, and it has an entry for just the assets that the log moves from
or to it. -/
theorem log_explains_balances (name : Data) (clock : Option Moment) (verbose : Bool)
    (requests : List Request) (address asset : Text) :
    let ledger := (create name clock verbose).serveAll requests
    let postings := ledger.log.flatMap Transaction.postings
    ledger.balance address asset =
        credited postings (Address.normalize address) asset -
          debited postings (Address.normalize address) asset ∧
      (ledger.hasEntry address asset ↔ ∃ posting ∈ postings, posting.asset = asset ∧
        (posting.source = Address.normalize address ∨
          posting.destination = Address.normalize address)) := by
  have explained := explained_serveAll name clock verbose requests
  exact ⟨explained.balance address asset, explained.entry address asset⟩

end Ledger

end DoubleEntry
