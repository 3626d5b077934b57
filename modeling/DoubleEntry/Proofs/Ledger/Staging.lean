import DoubleEntry.Proofs.Except
import DoubleEntry.Proofs.Ledger.Transfer

/-!
# Staging

Postings are staged on a running view that knows only the balances it was asked for, and
the staged balances are written at the end. This is the same as making the postings one
after the other on the ledger itself, up to the first that is refused: in the accounts,
in their order and in the order of their entries.
-/

namespace DoubleEntry.Ledger

/-! ## Writing staged balances -/

variable (ledger : Ledger)

@[simp] theorem settle_nil : ledger.settle [] = ledger := rfl

@[simp] theorem settle_cons (key : Text × Text) (amount : Int) (rest : Staged) :
    ledger.settle ((key, amount) :: rest) =
      (ledger.setBalance key.1 key.2 amount).settle rest := rfl

@[simp] theorem hasKey_settle (staged : Staged) (other : Text) :
    (ledger.settle staged).accounts.hasKey other = ledger.accounts.hasKey other := by
  induction staged generalizing ledger with
  | nil => rfl
  | cons entry rest ih =>
      rw [settle_cons, ih, hasKey_setBalance]

theorem hasEntry_setBalance {address asset : Text} (h : ledger.hasEntry address asset)
    (other otherAsset : Text) (amount : Int) :
    (ledger.setBalance other otherAsset amount).hasEntry address asset := by
  by_cases present : ledger.accounts.hasKey other = true
  · unfold hasEntry at h ⊢
    rw [balances_setBalance ledger present]
    split
    · exact (Entries.hasKey_put _ _ _ _).mpr (Or.inr h)
    · exact h
  · have absent : ledger.accounts.get? other = none := by
      simpa [Entries.hasKey] using present
    rw [setBalance, updateAccount_of_none ledger absent]
    exact h

theorem hasEntry_setBalance_self {address : Text} (full : Address.normalize address = address)
    (present : ledger.accounts.hasKey address = true) (asset : Text) (amount : Int) :
    (ledger.setBalance address asset amount).hasEntry address asset := by
  unfold hasEntry
  rw [balances_setBalance ledger present, if_pos full.symm]
  exact (Entries.hasKey_put _ _ _ _).mpr (Or.inl rfl)

/-- Writing over an entry can wait until other staged balances are written. -/
theorem setBalance_settle {key : Text × Text} (full : Address.normalize key.1 = key.1)
    (h : ledger.hasEntry key.1 key.2) {staged : Staged} (other : key ∉ staged.keys)
    (amount : Int) :
    (ledger.settle staged).setBalance key.1 key.2 amount =
      (ledger.setBalance key.1 key.2 amount).settle staged := by
  -- The entry that is written over outlives each staged write, so the places can be changed
  -- one by one.
  induction staged generalizing ledger with
  | nil => rfl
  | cons entry rest ih =>
      obtain ⟨k, v⟩ := entry
      simp only [Entries.keys, List.map_cons, List.mem_cons, not_or] at other
      rw [settle_cons, settle_cons, ih _ (hasEntry_setBalance ledger h _ _ _) other.2,
        setBalance_comm ledger full h other.1]

/-- Staging another balance is writing it last. -/
theorem settle_put {key : Text × Text} (full : Address.normalize key.1 = key.1)
    (present : ledger.accounts.hasKey key.1 = true) {staged : Staged}
    (distinct : staged.keys.Nodup) (amount : Int) :
    ledger.settle (staged.put key amount) =
      (ledger.settle staged).setBalance key.1 key.2 amount := by
  induction staged generalizing ledger with
  | nil => rfl
  | cons entry rest ih =>
      obtain ⟨k, v⟩ := entry
      simp only [Entries.keys, List.map_cons, List.nodup_cons] at distinct
      by_cases hk : k = key
      · -- Staged again under its own key, the balance keeps its place among those staged.
        subst hk
        rw [Entries.put, if_pos rfl, settle_cons, settle_cons,
          setBalance_settle _ full (hasEntry_setBalance_self ledger full present _ _) distinct.1,
          setBalance_setBalance]
      · rw [Entries.put, if_neg hk, settle_cons, settle_cons,
          ih _ (by rw [hasKey_setBalance]; exact present) distinct.2]

theorem openAccount_settle {staged : Staged}
    (present : ∀ key ∈ staged.keys, ledger.accounts.hasKey key.1 = true) (other : Text) :
    (ledger.settle staged).openAccount other = (ledger.openAccount other).settle staged := by
  induction staged generalizing ledger with
  | nil => rfl
  | cons entry rest ih =>
      obtain ⟨k, v⟩ := entry
      have later : ∀ key ∈ Entries.keys rest,
          (ledger.setBalance k.1 k.2 v).accounts.hasKey key.1 = true := by
        intro key hkey
        rw [hasKey_setBalance]
        exact present key (List.mem_cons_of_mem _ hkey)
      rw [settle_cons, settle_cons, ih _ later,
        openAccount_setBalance ledger (present k List.mem_cons_self)]

theorem openEnds_settle {staged : Staged}
    (present : ∀ key ∈ staged.keys, ledger.accounts.hasKey key.1 = true) (posting : Posting) :
    (ledger.settle staged).openEnds posting = (ledger.openEnds posting).settle staged := by
  unfold openEnds
  rw [openAccount_settle ledger present, openAccount_settle]
  intro key hkey
  exact (hasKey_openAccount ledger _ _).mpr (Or.inr (present key hkey))

/-! ## The running view -/

theorem running_put (staged : Staged) (address asset other otherAsset : Text) (amount : Int) :
    ledger.running (staged.put (address, asset) amount) other otherAsset =
      if address = other ∧ asset = otherAsset then amount
      else ledger.running staged other otherAsset := by
  unfold running
  rw [Entries.get?_put]
  simp only [Prod.mk.injEq]
  split <;> rfl

/-- The staged balances of some postings, written to the ledger on which the accounts of
these postings were opened, give the ledger that the postings lead to, and the running
view shows its balances. -/
structure Mirrors (staged : Staged) (opened reached : Ledger) : Prop where
  distinct : staged.keys.Nodup
  present : ∀ key ∈ staged.keys, opened.accounts.hasKey key.1 = true
  settled : opened.settle staged = reached
  view : ∀ address asset, Address.normalize address = address →
    ledger.running staged address asset = reached.balance address asset

variable {ledger}

theorem Mirrors.start : ledger.Mirrors [] ledger ledger where
  distinct := List.nodup_nil
  present := by simp [Entries.keys]
  settled := rfl
  view := fun _ _ _ => rfl

theorem Mirrors.open {staged : Staged} {opened reached : Ledger}
    (mirrors : ledger.Mirrors staged opened reached) (posting : Posting) :
    ledger.Mirrors staged (opened.openEnds posting) (reached.openEnds posting) where
  distinct := mirrors.distinct
  present := fun key hkey =>
    (hasKey_openEnds opened posting _).mpr (Or.inr (Or.inr (mirrors.present key hkey)))
  settled := by
    rw [← openEnds_settle opened mirrors.present, mirrors.settled]
  view := by
    intro address asset full
    rw [mirrors.view address asset full, balance_openEnds]

theorem Mirrors.write {staged : Staged} {opened reached : Ledger}
    (mirrors : ledger.Mirrors staged opened reached) {address : Text}
    (full : Address.normalize address = address)
    (there : opened.accounts.hasKey address = true) (asset : Text) (amount : Int) :
    ledger.Mirrors (staged.put (address, asset) amount) opened
      (reached.setBalance address asset amount) where
  distinct := Entries.nodup_keys_put mirrors.distinct _ _
  present := by
    intro key hkey
    rcases (Entries.hasKey_put _ _ _ _).mp ((Entries.hasKey_iff_mem _ _).mpr hkey) with
      rfl | old
    · exact there
    · exact mirrors.present key ((Entries.hasKey_iff_mem _ _).mp old)
  settled := by
    rw [@settle_put opened (address, asset) full there _ mirrors.distinct, mirrors.settled]
  view := by
    intro other otherAsset fullOther
    have inside : reached.accounts.hasKey address = true := by
      rw [← mirrors.settled, hasKey_settle]
      exact there
    rw [running_put, balance_setBalance _ inside, fullOther,
      mirrors.view other otherAsset fullOther]

/-! ## Postings one after the other -/

/-- Make one posting, unless it takes more from its source than this holds. -/
def attempt (overdrafts : Entries Text Bool) (ledger : Ledger) (posting : Posting) :
    Except Fault Ledger :=
  let available := ledger.balance posting.source posting.asset
  if !mayOverdraw overdrafts posting.source && available < posting.amount then
    .error (.overdrawn posting.source posting.asset available posting.amount)
  else .ok (ledger.transfer posting)

/-- Make postings in order, up to the first that is refused. -/
def attemptAll (ledger : Ledger) (overdrafts : Entries Text Bool) (postings : List Posting) :
    Except Fault Ledger :=
  postings.foldlM (attempt overdrafts) ledger

/-- A posting is staged just when it can be made, and refused for the same cause. -/
theorem stage_attempt {staged : Staged} {opened reached : Ledger}
    (mirrors : ledger.Mirrors staged opened reached) {posting : Posting}
    (full : posting.isFull) (overdrafts : Entries Text Bool) :
    match ledger.stage overdrafts staged posting, reached.attempt overdrafts posting with
    | .ok after, .ok next => ledger.Mirrors after (opened.openEnds posting) next
    | .error fault, .error cause => fault = cause
    | _, _ => False := by
  have seen := mirrors.view _ posting.asset full.source
  by_cases refused : (!mayOverdraw overdrafts posting.source &&
      decide (reached.balance posting.source posting.asset < posting.amount)) = true
  · simp only [stage, attempt, seen, if_pos refused]
  · -- The destination is read after the source was debited, for both can be one account.
    let paid := staged.put (posting.source, posting.asset)
      (reached.balance posting.source posting.asset - posting.amount)
    have debited : ledger.Mirrors paid _ _ := (mirrors.open posting).write full.source
      (hasKey_source opened full) posting.asset _
    have credited := debited.write full.destination (hasKey_destination opened full)
      posting.asset (ledger.running paid posting.destination posting.asset + posting.amount)
    have before := debited.view _ posting.asset full.destination
    simp only [stage, attempt, seen, if_neg refused, transfer, adjust, balance_openEnds,
      ← Int.sub_eq_add_neg, ← before]
    exact credited

/-- Postings are staged just when they can be made one after the other, and refused for the same
cause. -/
theorem stageAll_mirrors {staged : Staged} {opened reached : Ledger}
    (mirrors : ledger.Mirrors staged opened reached) {postings : List Posting}
    (full : ∀ posting ∈ postings, posting.isFull) (overdrafts : Entries Text Bool) :
    match postings.foldlM (ledger.stage overdrafts) staged,
      reached.attemptAll overdrafts postings with
    | .ok after, .ok next => ledger.Mirrors after (postings.foldl openEnds opened) next
    | .error fault, .error cause => fault = cause
    | _, _ => False := by
  -- Along the postings staged balances, opened accounts and the reached ledger stay mirrors.
  induction postings generalizing staged opened reached with
  | nil => exact mirrors
  | cons posting rest ih =>
      have first := stage_attempt mirrors (full posting List.mem_cons_self) overdrafts
      have later : ∀ p ∈ rest, p.isFull := fun p hp => full p (List.mem_cons_of_mem _ hp)
      rw [attemptAll, List.foldlM_cons, List.foldlM_cons, List.foldl_cons]
      cases hs : ledger.stage overdrafts staged posting with
      | error fault =>
          cases ha : reached.attempt overdrafts posting with
          | error cause =>
              rw [hs, ha] at first
              exact first
          | ok next =>
              rw [hs, ha] at first
              exact first.elim
      | ok after =>
          cases ha : reached.attempt overdrafts posting with
          | error cause =>
              rw [hs, ha] at first
              exact first.elim
          | ok next =>
              rw [hs, ha] at first
              exact ih first later

/-- Staging postings and writing what was staged is making them one after the other. -/
theorem stageAll_attemptAll {staged : Staged} {opened reached : Ledger}
    (mirrors : ledger.Mirrors staged opened reached) {postings : List Posting}
    (full : ∀ posting ∈ postings, posting.isFull) (overdrafts : Entries Text Bool) :
    (postings.foldlM (ledger.stage overdrafts) staged).map
        (fun after => (postings.foldl openEnds opened).settle after) =
      reached.attemptAll overdrafts postings := by
  have run := stageAll_mirrors mirrors full overdrafts
  split at run
  · next after next done made =>
      rw [done, made]
      exact congrArg Except.ok run.settled
  · next fault cause failed refused =>
      rw [failed, refused, run]
      rfl
  · exact run.elim

/-- Each account with a staged balance was opened. -/
theorem hasKey_of_staged {postings : List Posting} (full : ∀ posting ∈ postings, posting.isFull)
    {overdrafts : Entries Text Bool} {staged : Staged}
    (done : ledger.stageAll overdrafts postings = .ok staged) {key : Text × Text}
    (written : key ∈ staged.keys) :
    (postings.foldl openEnds ledger).accounts.hasKey key.1 = true := by
  have run := stageAll_mirrors (@Mirrors.start ledger) full overdrafts
  rw [stageAll] at done
  rw [done] at run
  split at run
  · next after next same made =>
      obtain rfl := Except.ok.inj same
      exact run.present key written
  · next fault cause failed refused => cases failed
  · exact run.elim

/-! ## What a commit does -/

/-- The record of a transaction that is committed now. -/
def recordOf (ledger : Ledger) (proposal : Proposal) : Transaction :=
  { id := ledger.nextId
    postings := proposal.postings.map Posting.normalize
    metadata := proposal.metadata
    timestamp := ledger.now
    reference := proposal.reference }

/-- A commit makes the postings one after the other, under full addresses, and records
them; it is refused when one of them is. -/
theorem commit_eq (ledger : Ledger) (proposal : Proposal) :
    ledger.commit proposal =
      (ledger.attemptAll proposal.overdrafts (ledger.recordOf proposal).postings).map fun after =>
        (ledger.recordOf proposal, after.record (ledger.recordOf proposal)) := by
  have full : ∀ posting ∈ proposal.postings.map Posting.normalize, posting.isFull := by
    intro posting hposting
    obtain ⟨given, -, rfl⟩ := List.mem_map.mp hposting
    exact given.isFull_normalize
  have staged := stageAll_attemptAll (@Mirrors.start ledger) full proposal.overdrafts
  unfold commit stageAll recordOf
  dsimp only
  rw [← staged]
  cases (proposal.postings.map Posting.normalize).foldlM (ledger.stage proposal.overdrafts) [] <;>
    rfl

theorem attempt_eq_transfer {overdrafts : Entries Text Bool} {after : Ledger}
    {posting : Posting} (h : ledger.attempt overdrafts posting = .ok after) :
    after = ledger.transfer posting := by
  unfold attempt at h
  dsimp only at h
  split at h
  · cases h
  · exact (Except.ok.inj h).symm

theorem attemptAll_eq_transferAll {overdrafts : Entries Text Bool} {after : Ledger}
    {postings : List Posting} (h : ledger.attemptAll overdrafts postings = .ok after) :
    after = ledger.transferAll postings := by
  induction postings generalizing ledger with
  | nil => exact (Except.ok.inj h).symm
  | cons posting rest ih =>
      rw [attemptAll, List.foldlM_cons] at h
      obtain ⟨next, first, later⟩ := bind_eq_ok.mp h
      rw [transferAll_cons, ← attempt_eq_transfer first]
      exact ih later

/-- What is left by a commit that was not refused. -/
theorem commit_ok {proposal : Proposal} {tx : Transaction} {after : Ledger}
    (h : ledger.commit proposal = .ok (tx, after)) :
    tx = ledger.recordOf proposal ∧ after = (ledger.transferAll tx.postings).record tx := by
  rw [commit_eq] at h
  cases made : ledger.attemptAll proposal.overdrafts (ledger.recordOf proposal).postings with
  | error fault =>
      rw [made] at h
      cases h
  | ok reached =>
      rw [made] at h
      obtain ⟨rfl, rfl⟩ := Prod.mk.inj (Except.ok.inj h)
      exact ⟨rfl, by rw [attemptAll_eq_transferAll made]⟩

/-- A commit touches the accounts and adds one record to the log. -/
theorem commit_frame {proposal : Proposal} {tx : Transaction} {after : Ledger}
    (h : ledger.commit proposal = .ok (tx, after)) :
    after = { ledger with
      accounts := (ledger.transferAll tx.postings).accounts
      log := ledger.log ++ [tx]
      nextId := ledger.nextId + 1 } := by
  obtain ⟨-, left⟩ := commit_ok h
  rw [left, transferAll_frame]
  rfl

/-- A commit leaves the balances that its postings lead to. -/
theorem balance_commit {proposal : Proposal} {tx : Transaction} {after : Ledger}
    (h : ledger.commit proposal = .ok (tx, after)) (address asset : Text) :
    after.balance address asset =
      (ledger.transferAll (proposal.postings.map Posting.normalize)).balance address asset := by
  obtain ⟨recorded, left⟩ := commit_ok h
  rw [left, record, balance_eq, balance_eq, recorded]
  rfl

/-- Transactions carry full addresses. -/
theorem commit_isFull {proposal : Proposal} {tx : Transaction} {after : Ledger}
    (h : ledger.commit proposal = .ok (tx, after)) :
    ∀ posting ∈ tx.postings, posting.isFull := by
  intro posting hposting
  rw [(commit_ok h).1] at hposting
  obtain ⟨given, -, rfl⟩ := List.mem_map.mp hposting
  exact given.isFull_normalize

end DoubleEntry.Ledger
