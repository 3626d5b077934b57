import DoubleEntry.Proofs.Ledger.Affordable
import DoubleEntry.Proofs.Ledger.Explained

/-!
# Overdrafts

Below zero goes only who is granted an overdraft. A transaction takes from an account
without a grant no more than this holds, so such an account is never pushed further below
zero; and behind every negative balance stands a transaction that granted the overdraft
and made use of it.
-/

namespace DoubleEntry

/-- Whether a posting takes an asset from an account. -/
def Posting.debits (posting : Posting) (address asset : Text) : Prop :=
  posting.source = address ∧ posting.asset = asset

/-- Whether a proposal grants an account an overdraft, under any spelling. -/
def Proposal.grants (proposal : Proposal) (address : Text) : Prop :=
  ∃ granted, (granted, true) ∈ proposal.overdrafts ∧
    Address.normalize granted = Address.normalize address

namespace Ledger

/-! ## What a posting takes at most -/

section Full

variable {posting : Posting} (full : posting.isFull)
include full

theorem sub_le_balance_transfer (ledger : Ledger) (address asset : Text) :
    ledger.balance address asset - posting.amount ≤
      (ledger.transfer posting).balance address asset := by
  have moved := balance_transfer ledger full address asset
  split at moved <;> split at moved <;> omega

theorem balance_le_transfer {address asset : Text}
    (undebited : ¬posting.debits (Address.normalize address) asset) (ledger : Ledger) :
    ledger.balance address asset ≤ (ledger.transfer posting).balance address asset := by
  have moved := balance_transfer ledger full address asset
  unfold Posting.debits at undebited
  rw [if_neg undebited] at moved
  split at moved <;> omega

end Full

/-- Postings that take nothing of an asset from an account leave it no less. -/
theorem balance_le_transferAll {postings : List Posting}
    (full : ∀ posting ∈ postings, posting.isFull) {address asset : Text}
    (undebited : ¬∃ posting ∈ postings, posting.debits (Address.normalize address) asset)
    (ledger : Ledger) :
    ledger.balance address asset ≤ (ledger.transferAll postings).balance address asset := by
  induction postings generalizing ledger with
  | nil => exact Int.le_refl _
  | cons posting rest ih =>
      rw [List.exists_mem_cons_iff, not_or] at undebited
      calc ledger.balance address asset
          ≤ (ledger.transfer posting).balance address asset :=
            balance_le_transfer (full posting List.mem_cons_self) undebited.1 ledger
        _ ≤ (ledger.transferAll (posting :: rest)).balance address asset :=
            ih (fun p hp => full p (List.mem_cons_of_mem _ hp)) undebited.2 _

/-! ## Postings without a grant -/

section Ungranted

variable {overdrafts : Entries Text Bool} {address : Text}
  (ungranted : ¬mayOverdraw overdrafts (Address.normalize address) = true)
include ungranted

/-- What an account without a grant is to pay is checked before it is taken. -/
theorem attempt_held {ledger next : Ledger} {posting : Posting} {asset : Text}
    (made : ledger.attempt overdrafts posting = .ok next)
    (debited : posting.debits (Address.normalize address) asset) :
    (posting.amount : Int) ≤ ledger.balance address asset := by
  rw [← debited.1] at ungranted
  have held := (held_of_attempt made).resolve_left ungranted
  rw [debited.1, debited.2, balance_normalize] at held
  exact held

/-- A posting that is made leaves an account without a grant no further below zero than it
was, and not below zero at all if it takes from it. -/
theorem attempt_floor {ledger next : Ledger} {posting : Posting} (full : posting.isFull)
    (made : ledger.attempt overdrafts posting = .ok next) (asset : Text) :
    min (ledger.balance address asset) 0 ≤ next.balance address asset ∧
      (posting.debits (Address.normalize address) asset → 0 ≤ next.balance address asset) := by
  rw [attempt_eq_transfer made]
  by_cases debited : posting.debits (Address.normalize address) asset
  · have held := attempt_held ungranted made debited
    have left := sub_le_balance_transfer full ledger address asset
    constructor <;> omega
  · have left := balance_le_transfer full debited ledger
    exact ⟨by omega, fun taken => absurd taken debited⟩

/-- The same holds of postings made one after the other. -/
theorem attemptAll_floor {ledger after : Ledger} {postings : List Posting}
    (full : ∀ posting ∈ postings, posting.isFull)
    (made : ledger.attemptAll overdrafts postings = .ok after) (asset : Text) :
    min (ledger.balance address asset) 0 ≤ after.balance address asset ∧
      ((∃ posting ∈ postings, posting.debits (Address.normalize address) asset) →
        0 ≤ after.balance address asset) := by
  induction postings generalizing ledger with
  | nil =>
      cases made
      refine ⟨Int.min_le_left _ _, ?_⟩
      rintro ⟨posting, mem, -⟩
      cases mem
  | cons posting rest ih =>
      rw [attemptAll, List.foldlM_cons] at made
      obtain ⟨next, first, later⟩ := bind_eq_ok.mp made
      obtain ⟨low, paid⟩ := attempt_floor ungranted (full posting List.mem_cons_self) first asset
      obtain ⟨lowRest, paidRest⟩ := ih (fun p hp => full p (List.mem_cons_of_mem _ hp)) later
      constructor
      · omega
      · rintro ⟨debit, mem, debited⟩
        rcases List.mem_cons.mp mem with rfl | behind
        · have := paid debited
          omega
        · exact paidRest ⟨debit, behind, debited⟩

end Ungranted

/-! ## Transactions -/

section Committed

variable {ledger after : Ledger} {proposal : Proposal} {tx : Transaction}
  (h : ledger.commit proposal = .ok (tx, after)) {address : Text}
  (inside : Address.normalize address ≠ Address.world)
include h inside

/-- What a transaction leaves on an account that it grants no overdraft. -/
theorem commit_floor (ungranted : ¬proposal.grants address) (asset : Text) :
    min (ledger.balance address asset) 0 ≤ after.balance address asset ∧
      ((∃ posting ∈ tx.postings, posting.debits (Address.normalize address) asset) →
        0 ≤ after.balance address asset) := by
  have denied : ¬mayOverdraw proposal.overdrafts (Address.normalize address) = true := by
    rw [mayOverdraw_iff]
    exact not_or.mpr ⟨inside, ungranted⟩
  have made := commit_eq ledger proposal
  rw [h] at made
  cases reached : ledger.attemptAll proposal.overdrafts (ledger.recordOf proposal).postings with
  | error fault =>
      rw [reached] at made
      cases made
  | ok last =>
      rw [reached] at made
      obtain ⟨rfl, rfl⟩ := Prod.mk.inj (Except.ok.inj made)
      exact attemptAll_floor denied (commit_isFull h) reached asset

/-- If a transaction leaves an account below zero, it was below zero before, or the
transaction grants it an overdraft and takes from it. -/
theorem commit_negative {asset : Text} (negative : after.balance address asset < 0) :
    ledger.balance address asset < 0 ∨
      proposal.grants address ∧
        ∃ posting ∈ tx.postings, posting.debits (Address.normalize address) asset := by
  by_contra neither
  obtain ⟨before, unused⟩ := not_or.mp neither
  by_cases granted : proposal.grants address
  · have kept := balance_le_transferAll (commit_isFull h) (not_and.mp unused granted) ledger
    have same : after.balance address asset =
        (ledger.transferAll tx.postings).balance address asset := by
      rw [(commit_ok h).2]
      rfl
    omega
  · obtain ⟨low, -⟩ := commit_floor h inside granted asset
    omega

end Committed

/-! ## The history of a negative balance -/

theorem balance_cleared (ledger : Ledger) (address asset : Text) :
    ledger.cleared.balance address asset = 0 := by
  rw [balance_eq, balances_cleared]
  rfl

/-- A request grants an account an overdraft and its transaction, which stays in the log,
takes from this account. -/
def Overdraws (ledger : Ledger) (request : Request) (address asset : Text)
    (tx : Transaction) : Prop :=
  ∃ proposal after, ledger.proposalOf request = some proposal ∧
    ledger.commit proposal = .ok (tx, after) ∧ proposal.grants address ∧
    ∃ posting ∈ tx.postings, posting.debits (Address.normalize address) asset

section Run

variable {address asset : Text} (inside : Address.normalize address ≠ Address.world)
include inside

/-- If a request leaves an account below zero, it was below zero before, or the request
lets it go there. -/
theorem serve_negative {ledger : Ledger} {request : Request}
    (negative : (ledger.serve request).balance address asset < 0) :
    request ≠ .reset ∧
      (ledger.balance address asset < 0 ∨
        ∃ tx ∈ (ledger.serve request).log, ledger.Overdraws request address asset tx) := by
  have kept : request ≠ .reset := by
    rintro rfl
    have empty : (ledger.serve .reset).balance address asset = 0 :=
      balance_cleared ledger address asset
    omega
  refine ⟨kept, ?_⟩
  cases proposed : ledger.proposalOf request with
  | none =>
      rw [(serve_unproposed ledger kept proposed).balance] at negative
      exact Or.inl negative
  | some proposal =>
      have books := serve_proposed ledger proposed
      rw [books.balance] at negative
      cases made : ledger.commit proposal with
      | error fault =>
          rw [commitAloud_error ledger made] at negative
          exact Or.inl negative
      | ok result =>
          obtain ⟨tx, after⟩ := result
          rw [commitAloud_ok ledger made] at negative books
          refine (commit_negative made inside negative).imp_right fun used => ⟨tx, ?_, ?_⟩
          · rw [books.log, commit_frame made]
            exact List.mem_append_right _ List.mem_cons_self
          · exact ⟨proposal, after, proposed, made, used⟩

/-- A balance that is negative behind a row of requests was negative before and the ledger
was not emptied since, or one of the requests let the account go below zero. -/
theorem serveAll_negative {ledger : Ledger} {requests : List Request}
    (negative : (ledger.serveAll requests).balance address asset < 0) :
    (ledger.balance address asset < 0 ∧ Request.reset ∉ requests) ∨
      ∃ earlier request later, requests = earlier ++ request :: later ∧
        Request.reset ∉ later ∧ ∃ tx ∈ (ledger.serveAll requests).log,
          (ledger.serveAll earlier).Overdraws request address asset tx := by
  induction requests generalizing ledger with
  | nil => exact Or.inl ⟨negative, List.not_mem_nil⟩
  | cons request rest ih =>
      rw [serveAll_cons] at negative ⊢
      rcases ih negative with ⟨here, kept⟩ | ⟨earlier, found, later, rfl, kept, tx, logged, used⟩
      · obtain ⟨notReset, before | ⟨tx, logged, used⟩⟩ := serve_negative inside here
        · exact Or.inl ⟨before, mt List.mem_cons.mp (not_or.mpr ⟨Ne.symm notReset, kept⟩)⟩
        · have still := (log_serveAll (ledger.serve request) kept).subset logged
          exact Or.inr ⟨[], request, rest, rfl, kept, tx, still, used⟩
      · exact Or.inr ⟨request :: earlier, found, later, rfl, kept, tx, logged, used⟩

end Run

/-- No request pushes an account that it grants no overdraft further below zero, or below
zero at all if it takes from this account. So behind every negative balance of a ledger in
use stands a request since the ledger was last emptied that granted the account an
overdraft and took from it. -/
theorem overdrafts_isolated :
    (∀ (ledger : Ledger) (request : Request) (proposal : Proposal) (tx : Transaction)
        (after : Ledger), ledger.proposalOf request = some proposal →
      ledger.commit proposal = .ok (tx, after) →
      ∀ address asset : Text, Address.normalize address ≠ Address.world →
        ¬proposal.grants address →
        min (ledger.balance address asset) 0 ≤ (ledger.serve request).balance address asset ∧
          ((∃ posting ∈ tx.postings, posting.debits (Address.normalize address) asset) →
            0 ≤ (ledger.serve request).balance address asset)) ∧
    ∀ (name : Data) (clock : Option Moment) (verbose : Bool) (requests : List Request)
        (address asset : Text),
      let fresh := create name clock verbose
      Address.normalize address ≠ Address.world →
      (fresh.serveAll requests).balance address asset < 0 →
      ∃ earlier request later, requests = earlier ++ request :: later ∧
        Request.reset ∉ later ∧ ∃ tx ∈ (fresh.serveAll requests).log,
          (fresh.serveAll earlier).Overdraws request address asset tx := by
  constructor
  · intro ledger request proposal tx after proposed made address asset inside ungranted
    have books := serve_proposed ledger proposed
    rw [commitAloud_ok ledger made] at books
    rw [books.balance]
    exact commit_floor made inside ungranted asset
  · intro name clock verbose requests address asset fresh inside negative
    have start : fresh.balance address asset = 0 := balance_cleared _ address asset
    rcases serveAll_negative inside negative with ⟨before, -⟩ | found
    · omega
    · exact found

/-- A transaction whose account spends no more than it was given. -/
def spending : Proposal :=
  { postings := [⟨"@world", "a", "USD/2", 10⟩, ⟨"a", "@b", "USD/2", 4⟩]
    metadata := []
    overdrafts := [("@b", true)]
    reference := .null }

/-- A transaction whose account spends what it is granted. -/
def borrowing : Proposal :=
  { postings := [⟨"@a", "@b", "USD/2", 5⟩]
    metadata := []
    overdrafts := [("a", true)]
    reference := .null }

/-- Of these two only the second can leave its account below zero. -/
theorem overdraft_of_borrowing :
    let fresh := create (.text "main") none false
    0 ≤ (fresh.serve (.commit spending)).balance "@a" "USD/2" ∧
      (fresh.serveAll [.commit borrowing]).balance "@a" "USD/2" < 0 ∧
      ∃ earlier request later, [Request.commit borrowing] = earlier ++ request :: later ∧
        Request.reset ∉ later ∧ ∃ tx ∈ (fresh.serveAll [.commit borrowing]).log,
          (fresh.serveAll earlier).Overdraws request "@a" "USD/2" tx := by
  intro fresh
  have inside : Address.normalize "@a" ≠ Address.world := by decide
  have negative : (fresh.serveAll [.commit borrowing]).balance "@a" "USD/2" < 0 := by
    decide +kernel
  refine ⟨?_, negative, overdrafts_isolated.2 _ _ _ _ _ _ inside negative⟩
  have granted : (fresh.commit spending).isOk = true := by decide +kernel
  cases made : fresh.commit spending with
  | error fault =>
      rw [made] at granted
      cases granted
  | ok result =>
      obtain ⟨tx, after⟩ := result
      have ungranted : ¬spending.grants "@a" := by
        rintro ⟨granted, mem, same⟩
        obtain rfl : granted = "@b" := by simpa [spending] using mem
        exact absurd same (by decide)
      refine (overdrafts_isolated.1 fresh _ spending tx after rfl made _ _ inside ungranted).2 ?_
      rw [(commit_ok made).1]
      exact ⟨_, List.mem_cons_of_mem _ List.mem_cons_self, by decide, rfl⟩

end Ledger

end DoubleEntry
