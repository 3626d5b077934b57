import DoubleEntry.Proofs.Ledger.Aloud

/-!
# Committing postings one by one

A transaction of several postings does to the accounts what transactions of one posting
each do one after the other. It is refused just when one of these is, and for the cause
of the first that is; then nothing of it stays. The cause is reported as what it is only if
its numbers can be written.
-/

namespace DoubleEntry

/-- A proposal of one posting, with nothing noted on it. -/
def Proposal.single (posting : Posting) (overdrafts : Entries Text Bool) : Proposal :=
  { postings := [posting], metadata := [], overdrafts, reference := .null }

namespace Ledger

/-- Commit postings as transactions of their own, with the same overdrafts, up to the
first that is refused. -/
def commitEach (ledger : Ledger) (overdrafts : Entries Text Bool) (postings : List Posting) :
    Except Fault Ledger :=
  postings.foldlM
    (fun ledger posting => Prod.snd <$> ledger.commit (.single posting overdrafts)) ledger

variable (ledger : Ledger)

/-! ## Records and accounts do not touch each other -/

theorem openAccount_record (tx : Transaction) (address : Text) :
    (ledger.record tx).openAccount address = (ledger.openAccount address).record tx := by
  unfold openAccount record
  dsimp only
  split <;> rfl

theorem setBalance_record (tx : Transaction) (address asset : Text) (amount : Int) :
    (ledger.record tx).setBalance address asset amount =
      (ledger.setBalance address asset amount).record tx := by
  unfold setBalance updateAccount record
  dsimp only
  split <;> rfl

theorem transfer_record (tx : Transaction) (posting : Posting) :
    (ledger.record tx).transfer posting = (ledger.transfer posting).record tx := by
  have balance_record (l : Ledger) (address asset : Text) :
      (l.record tx).balance address asset = l.balance address asset := rfl
  simp only [transfer, adjust, openEnds, openAccount_record, setBalance_record, balance_record]

theorem attempt_record (tx : Transaction) (overdrafts : Entries Text Bool) (posting : Posting) :
    (ledger.record tx).attempt overdrafts posting =
      (ledger.attempt overdrafts posting).map fun after => after.record tx := by
  have same : (ledger.record tx).balance posting.source posting.asset =
      ledger.balance posting.source posting.asset := rfl
  unfold attempt
  dsimp only
  rw [same, transfer_record]
  split <;> rfl

theorem attemptAll_record (tx : Transaction) (overdrafts : Entries Text Bool)
    (postings : List Posting) :
    (ledger.record tx).attemptAll overdrafts postings =
      (ledger.attemptAll overdrafts postings).map fun after => after.record tx := by
  induction postings generalizing ledger with
  | nil => rfl
  | cons posting rest ih =>
      unfold attemptAll at ih ⊢
      rw [List.foldlM_cons, List.foldlM_cons, attempt_record]
      cases ledger.attempt overdrafts posting with
      | error fault => rfl
      | ok next => exact ih next

/-! ## One posting at a time -/

/-- A transaction of one posting makes that posting and records it. -/
theorem commit_single (overdrafts : Entries Text Bool) (posting : Posting) :
    Prod.snd <$> ledger.commit (.single posting overdrafts) =
      (ledger.attempt overdrafts posting.normalize).map fun after =>
        after.record (ledger.recordOf (.single posting overdrafts)) := by
  rw [commit_eq]
  have one : ledger.attemptAll overdrafts [posting.normalize] =
      ledger.attempt overdrafts posting.normalize := by
    rw [attemptAll, List.foldlM_cons]
    cases ledger.attempt overdrafts posting.normalize <;> rfl
  change Prod.snd <$> Except.map _ (ledger.attemptAll overdrafts [posting.normalize]) = _
  rw [one]
  cases ledger.attempt overdrafts posting.normalize <;> rfl

/-- Committing one by one makes the same postings in the same order. -/
theorem commitEach_accounts (overdrafts : Entries Text Bool) (postings : List Posting) :
    (ledger.commitEach overdrafts postings).map accounts =
      (ledger.attemptAll overdrafts (postings.map Posting.normalize)).map accounts := by
  induction postings generalizing ledger with
  | nil => rfl
  | cons posting rest ih =>
      unfold commitEach attemptAll at ih ⊢
      rw [List.map_cons, List.foldlM_cons, List.foldlM_cons, commit_single]
      cases ledger.attempt overdrafts posting.normalize with
      | error fault => rfl
      | ok next =>
          have later := attemptAll_record next
            (ledger.recordOf (.single posting overdrafts)) overdrafts
            (rest.map Posting.normalize)
          unfold attemptAll at later
          change Except.map accounts (List.foldlM _
              (next.record (ledger.recordOf (.single posting overdrafts))) rest) =
            Except.map accounts ((rest.map Posting.normalize).foldlM (attempt overdrafts) next)
          rw [ih, later]
          cases (rest.map Posting.normalize).foldlM (attempt overdrafts) next <;> rfl

/-- A transaction of one posting is refused only for want of funds. -/
theorem commit_single_error {overdrafts : Entries Text Bool} {posting : Posting} {fault : Fault}
    (h : Prod.snd <$> ledger.commit (.single posting overdrafts) = .error fault) :
    ledger.commit (.single posting overdrafts) = .error fault ∧
      fault = .overdrawn (Address.normalize posting.source) posting.asset
        (ledger.balance posting.source posting.asset) posting.amount := by
  constructor
  · cases made : ledger.commit (.single posting overdrafts) with
    | error cause =>
        rw [made] at h
        cases h
        rfl
    | ok result =>
        rw [made] at h
        cases h
  · rw [commit_single] at h
    unfold attempt at h
    dsimp only at h
    split at h
    · cases h
      rw [Posting.normalize_source, Posting.normalize_asset, balance_normalize,
        Posting.normalize_amount]
    · cases h

/-- Commits one by one stop at the first posting that is refused on its own. -/
theorem commitEach_error {overdrafts : Entries Text Bool} {postings : List Posting}
    {fault : Fault} (h : ledger.commitEach overdrafts postings = .error fault) :
    ∃ done posting rest mid, postings = done ++ posting :: rest ∧
      ledger.commitEach overdrafts done = .ok mid ∧
      mid.commit (.single posting overdrafts) = .error fault ∧
      fault = .overdrawn (Address.normalize posting.source) posting.asset
        (mid.balance posting.source posting.asset) posting.amount := by
  obtain ⟨done, posting, rest, mid, split, before, failed⟩ := foldlM_eq_error h
  obtain ⟨refused, why⟩ := commit_single_error mid failed
  exact ⟨done, posting, rest, mid, split, before, refused, why⟩

/-- A commit is granted where commits one by one are, with the accounts that they leave,
and refused where one of them is, for the same cause. -/
theorem commit_commitEach (proposal : Proposal) :
    match ledger.commit proposal,
      ledger.commitEach proposal.overdrafts proposal.postings with
    | .ok (_, after), .ok each => after.accounts = each.accounts
    | .error fault, .error cause => fault = cause
    | _, _ => False := by
  have same := commitEach_accounts ledger proposal.overdrafts proposal.postings
  change _ = Except.map accounts
    (ledger.attemptAll proposal.overdrafts (ledger.recordOf proposal).postings) at same
  rw [commit_eq]
  cases hEach : ledger.commitEach proposal.overdrafts proposal.postings with
  | error cause =>
      cases made : ledger.attemptAll proposal.overdrafts (ledger.recordOf proposal).postings with
      | error fault =>
          rw [hEach, made] at same
          exact (Except.error.inj same).symm
      | ok reached =>
          rw [hEach, made] at same
          cases same
  | ok each =>
      cases made : ledger.attemptAll proposal.overdrafts (ledger.recordOf proposal).postings with
      | error fault =>
          rw [hEach, made] at same
          cases same
      | ok reached =>
          rw [hEach, made] at same
          exact (Except.ok.inj same).symm

/-- Two-phase commit and commits one by one agree: in the accounts if none is refused, and
else in the cause of the first refusal, at which the ledger stays as it was. The refusal is
reported as a lack of funds just when what is there and what is asked for can be written. A
commit that was not refused is answered with its transaction, unless a verbose ledger cannot
show it. -/
theorem commit_one_by_one (proposal : Proposal) :
    match ledger.commit proposal,
      ledger.commitEach proposal.overdrafts proposal.postings with
    | .ok (tx, after), .ok each =>
        after.accounts = each.accounts ∧ after.log = ledger.log ++ [tx] ∧
          tx.id = ledger.nextId ∧ after.nextId = ledger.nextId + 1 ∧
          (ledger.commitAloud proposal).2 = after ∧
          ((ledger.commitAloud proposal).1 = .ok tx ∨
            ledger.verbose = true ∧
              ((ledger.commitAloud proposal).1 = .error .wrongKind ∧
                  (Receipt.IsOddlyReferenced tx ∨ ledger.name.asText? = none) ∨
                (ledger.commitAloud proposal).1 = .error .unwritable ∧
                  ∃ n ∈ Receipt.numbers tx, Decimal.fits n = false))
    | .error fault, .error _ =>
        (∃ done posting rest mid, proposal.postings = done ++ posting :: rest ∧
          ledger.commitEach proposal.overdrafts done = .ok mid ∧
          mid.commit (.single posting proposal.overdrafts) = .error fault ∧
          fault = .overdrawn (Address.normalize posting.source) posting.asset
            (mid.balance posting.source posting.asset) posting.amount ∧
          (fault.reported.kind = .insufficientFunds ↔
            Decimal.fits (mid.balance posting.source posting.asset) = true ∧
              Decimal.fits posting.amount = true)) ∧
          ledger.commitAloud proposal = (.error fault, ledger) ∧
          (fault.reported.kind = .insufficientFunds → fault.reported = fault) ∧
          (fault.reported.kind ≠ .insufficientFunds → fault.reported = .unwritable)
    | _, _ => False := by
  have agree := commit_commitEach ledger proposal
  cases made : ledger.commit proposal with
  | error fault =>
      cases hEach : ledger.commitEach proposal.overdrafts proposal.postings with
      | ok each =>
          rw [made, hEach] at agree
          exact agree
      | error cause =>
          rw [made, hEach] at agree
          obtain rfl : fault = cause := agree
          obtain ⟨done, posting, rest, mid, split, before, refused, rfl⟩ :=
            commitEach_error ledger hEach
          exact ⟨⟨done, posting, rest, mid, split, before, refused, rfl,
            Fault.kind_reported_overdrawn _ _ _ _⟩, commitAloud_error ledger made,
            Fault.reported_of_kind rfl rfl, Fault.reported_of_kind_ne rfl⟩
  | ok result =>
      obtain ⟨tx, after⟩ := result
      cases hEach : ledger.commitEach proposal.overdrafts proposal.postings with
      | error cause =>
          rw [made, hEach] at agree
          exact agree
      | ok each =>
          rw [made, hEach] at agree
          exact ⟨agree, by rw [commit_frame made], by rw [(commit_ok made).1]; rfl,
            by rw [commit_frame made], commitAloud_ok ledger made, commitAloud_cases made⟩

/-- A payment between two accounts that have not been mentioned yet. -/
def payment (amount : Nat) : Posting := ⟨"@a", "@b", "X", amount⟩

/-- On a new ledger such a payment is refused if it moves anything. -/
theorem commit_payment {amount : Nat} (some_ : 0 < amount) :
    (create (.text "main") none false).commit (.single (payment amount) []) =
      .error (.overdrawn "@a" "X" 0 amount) := by
  have empty : (create (.text "main") none false).balance "@a" "X" = 0 := by decide +kernel
  have denied : mayOverdraw [] "@a" = false := by decide +kernel
  have short : (create (.text "main") none false).attempt [] (payment amount).normalize =
      .error (.overdrawn "@a" "X" 0 amount) := by
    change (if !mayOverdraw [] "@a" &&
        decide ((create (.text "main") none false).balance "@a" "X" < amount) then _ else _) = _
    rw [empty, denied, Bool.not_false, Bool.true_and,
      if_pos (decide_eq_true (Int.natCast_pos.mpr some_))]
    rfl
  have failed := commit_single (create (.text "main") none false) [] (payment amount)
  rw [short] at failed
  exact (commit_single_error _ failed).1

/-- With an overdraft it is made, however much it moves. -/
theorem commit_payment_granted (amount : Nat) (verbose : Bool) :
    ∃ tx after, (create (.text "main") none verbose).commit
        (.single (payment amount) [("@a", true)]) = .ok (tx, after) ∧
      tx.postings = [payment amount] ∧ tx.reference = .null := by
  have granted : mayOverdraw [("@a", true)] "@a" = true := by decide +kernel
  have made : (create (.text "main") none verbose).attemptAll [("@a", true)] [payment amount] =
      .ok ((create (.text "main") none verbose).transfer (payment amount)) := by
    have one : attempt [("@a", true)] (create (.text "main") none verbose) (payment amount) =
        .ok ((create (.text "main") none verbose).transfer (payment amount)) := by
      unfold attempt
      dsimp only
      rw [show mayOverdraw [("@a", true)] (payment amount).source = true from granted]
      rfl
    rw [attemptAll, List.foldlM_cons, one]
    rfl
  let tx := (create (.text "main") none verbose).recordOf (.single (payment amount) [("@a", true)])
  refine ⟨tx, ((create (.text "main") none verbose).transfer (payment amount)).record tx,
    ?_, rfl, rfl⟩
  rw [commit_eq]
  change Except.map _ (attemptAll _ [("@a", true)] [payment amount]) = _
  rw [made]
  rfl

/-- A payment of more than can be written is refused on a new ledger for want of funds, and the
ledger stays as it was; but this is not reported as a lack of funds. Where a grant lets it
through, a verbose ledger commits it and is then at a loss to show it. -/
theorem vast_payment_untold :
    let vast := Nat.pow 10 Decimal.digitLimit
    let fresh := create (.text "main") none
    (fresh false).commitAloud (.single (payment vast) []) =
        (.error (.overdrawn "@a" "X" 0 vast), fresh false) ∧
      (Fault.overdrawn "@a" "X" 0 vast).reported.kind ≠ .insufficientFunds ∧
      (∃ tx after, (fresh true).commit (.single (payment vast) [("@a", true)]) = .ok (tx, after)) ∧
      ((fresh true).commitAloud (.single (payment vast) [("@a", true)])).1 = .error .unwritable := by
  have long : Decimal.fits (Nat.pow 10 Decimal.digitLimit) = false := Decimal.fits_limit
  have some_ : 0 < Nat.pow 10 Decimal.digitLimit := Decimal.limit_pos
  revert long some_
  generalize Nat.pow 10 Decimal.digitLimit = vast
  intro long some_ _ fresh
  obtain ⟨tx, after, made, postings, reference⟩ := commit_payment_granted vast true
  have plain : ¬Receipt.IsOddlyReferenced tx := by
    rw [Receipt.IsOddlyReferenced, reference]
    rintro ⟨present, -⟩
    cases present
  have illegible : ∃ n ∈ Receipt.numbers tx, Decimal.fits n = false := by
    refine ⟨vast, List.mem_append_left _ ?_, long⟩
    rw [postings]
    exact List.mem_singleton_self _
  refine ⟨commitAloud_error _ (commit_payment some_), ?_, ⟨tx, after, made⟩, ?_⟩
  · rw [Ne, Fault.kind_reported_overdrawn]
    rintro ⟨-, fit⟩
    rw [long] at fit
    cases fit
  · rw [commitAloud_verbose made rfl, committedNote_illegible after plain illegible]
    rfl

end Ledger

end DoubleEntry
