import DoubleEntry.Proofs.Ledger.Staging

/-!
# What a ledger can afford

A row of postings can be made on a ledger just when each source that may not go below zero
holds what is taken from it at its turn. This depends on the balances and the overdrafts
alone, and a row can be cut into parts that are made one after the other.
-/

namespace DoubleEntry.Ledger

theorem mayOverdraw_iff (overdrafts : Entries Text Bool) (address : Text) :
    mayOverdraw overdrafts address = true ↔
      address = Address.world ∨
        ∃ granted, (granted, true) ∈ overdrafts ∧ Address.normalize granted = address := by
  simp [mayOverdraw]

/-- Whether a ledger shows the balances of another. -/
def SameBalances (ledger other : Ledger) : Prop :=
  ∀ address asset, other.balance address asset = ledger.balance address asset

theorem SameBalances.refl (ledger : Ledger) : ledger.SameBalances ledger :=
  fun _ _ => rfl

theorem SameBalances.transfer {ledger other : Ledger} (same : ledger.SameBalances other)
    {posting : Posting} (full : posting.isFull) :
    (ledger.transfer posting).SameBalances (other.transfer posting) := by
  intro address asset
  rw [balance_transfer _ full, balance_transfer _ full, same]

theorem SameBalances.transferAll {ledger other : Ledger} (same : ledger.SameBalances other)
    {postings : List Posting} (full : ∀ posting ∈ postings, posting.isFull) :
    (ledger.transferAll postings).SameBalances (other.transferAll postings) := by
  induction postings generalizing ledger other with
  | nil => exact same
  | cons posting rest ih =>
      exact ih (same.transfer (full posting List.mem_cons_self))
        fun p hp => full p (List.mem_cons_of_mem _ hp)

theorem transferAll_append (ledger : Ledger) (first second : List Posting) :
    ledger.transferAll (first ++ second) = (ledger.transferAll first).transferAll second :=
  List.foldl_append

/-- Whether postings can be made in order: each source may go below zero or holds what is
taken from it. -/
def Affords (overdrafts : Entries Text Bool) : Ledger → List Posting → Prop
  | _, [] => True
  | ledger, posting :: rest =>
    (mayOverdraw overdrafts posting.source = true ∨
        (posting.amount : Int) ≤ ledger.balance posting.source posting.asset) ∧
      Affords overdrafts (ledger.transfer posting) rest

variable {overdrafts : Entries Text Bool} {ledger : Ledger}

theorem attempt_eq_ok {posting : Posting}
    (h : mayOverdraw overdrafts posting.source = true ∨
      (posting.amount : Int) ≤ ledger.balance posting.source posting.asset) :
    ledger.attempt overdrafts posting = .ok (ledger.transfer posting) := by
  have passed : ¬(!mayOverdraw overdrafts posting.source &&
      decide (ledger.balance posting.source posting.asset < posting.amount)) = true := by
    intro refused
    obtain ⟨denied, short⟩ := Bool.and_eq_true_iff.mp refused
    rw [decide_eq_true_eq] at short
    rcases h with granted | held
    · rw [granted] at denied
      cases denied
    · omega
  simp only [attempt, if_neg passed]

theorem held_of_attempt {posting : Posting} {next : Ledger}
    (made : ledger.attempt overdrafts posting = .ok next) :
    mayOverdraw overdrafts posting.source = true ∨
      (posting.amount : Int) ≤ ledger.balance posting.source posting.asset := by
  by_contra neither
  obtain ⟨denied, short⟩ := not_or.mp neither
  have refused : ledger.balance posting.source posting.asset < posting.amount := by omega
  simp [attempt, denied, refused] at made

/-- Postings can be made just when the ledger affords them. -/
theorem exists_attemptAll_iff {postings : List Posting} :
    (∃ after, ledger.attemptAll overdrafts postings = .ok after) ↔
      Affords overdrafts ledger postings := by
  induction postings generalizing ledger with
  | nil => exact ⟨fun _ => trivial, fun _ => ⟨ledger, rfl⟩⟩
  | cons posting rest ih =>
      unfold attemptAll at ih ⊢
      rw [List.foldlM_cons, Affords, ← ih]
      constructor
      · rintro ⟨after, made⟩
        obtain ⟨next, first, later⟩ := bind_eq_ok.mp made
        rw [attempt_eq_transfer first] at later
        exact ⟨held_of_attempt first, after, later⟩
      · rintro ⟨held, after, later⟩
        exact ⟨after, bind_eq_ok.mpr ⟨_, attempt_eq_ok held, later⟩⟩

/-- A proposal is committed just when the ledger affords its postings. -/
theorem exists_commit_iff {proposal : Proposal} :
    (∃ tx after, ledger.commit proposal = .ok (tx, after)) ↔
      Affords proposal.overdrafts ledger (proposal.postings.map Posting.normalize) := by
  rw [← exists_attemptAll_iff, commit_eq]
  change _ ↔ ∃ after, ledger.attemptAll proposal.overdrafts (ledger.recordOf proposal).postings =
    .ok after
  cases ledger.attemptAll proposal.overdrafts (ledger.recordOf proposal).postings with
  | error fault =>
      constructor
      · rintro ⟨tx, after, ⟨⟩⟩
      · rintro ⟨after, ⟨⟩⟩
  | ok reached => exact ⟨fun _ => ⟨reached, rfl⟩, fun _ => ⟨_, _, rfl⟩⟩

theorem affords_append {first second : List Posting} :
    Affords overdrafts ledger (first ++ second) ↔
      Affords overdrafts ledger first ∧ Affords overdrafts (ledger.transferAll first) second := by
  induction first generalizing ledger with
  | nil => exact ⟨fun h => ⟨trivial, h⟩, And.right⟩
  | cons posting rest ih => simp only [List.cons_append, Affords, ih, transferAll_cons, and_assoc]

/-- What is afforded is still afforded with more overdrafts on any ledger that shows the
same balances. -/
theorem Affords.mono {postings : List Posting} (full : ∀ posting ∈ postings, posting.isFull)
    {more : Entries Text Bool}
    (grants : ∀ address, mayOverdraw overdrafts address = true → mayOverdraw more address = true)
    {other : Ledger} (same : ledger.SameBalances other) (h : Affords overdrafts ledger postings) :
    Affords more other postings := by
  induction postings generalizing ledger other with
  | nil => trivial
  | cons posting rest ih =>
      obtain ⟨held, later⟩ := h
      constructor
      · rw [same]
        exact held.imp_left (grants _)
      · exact ih (fun p hp => full p (List.mem_cons_of_mem _ hp))
          (same.transfer (full posting List.mem_cons_self)) later

end DoubleEntry.Ledger
