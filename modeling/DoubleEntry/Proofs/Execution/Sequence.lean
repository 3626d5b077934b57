import DoubleEntry.Proofs.Execution.Plan
import DoubleEntry.Proofs.Ledger.Aloud
import DoubleEntry.Proofs.Script.Placeholder

/-!
# Sends one after the other

A script of several sends does what its sends do as scripts of their own, one after the
other: the same postings, in one transaction, and so the same balances. The overdrafts of
all its sends are granted together, which can only admit more.
-/

namespace DoubleEntry

namespace Script

/-! ## What sends grant -/

theorem exists_overdrafts_iff {sends : List Send} :
    (∃ granted, overdrafts sends = .ok granted) ↔
      ∀ reference ∈ grantedReferences sends, ∃ account, resolve [] reference = .ok account := by
  rw [← exists_mapM_ok_iff]
  constructor
  · rintro ⟨granted, h⟩
    obtain ⟨accounts, resolved, -⟩ := bind_eq_ok.mp h
    exact ⟨accounts, resolved⟩
  · rintro ⟨accounts, resolved⟩
    exact ⟨_, bind_eq_ok.mpr ⟨accounts, resolved, rfl⟩⟩

/-- Sends let just those accounts go below zero that they grant an overdraft, and the
outside world. -/
theorem mayOverdraw_overdrafts {sends : List Send} {granted : Entries Text Bool}
    (h : overdrafts sends = .ok granted) (address : Text) :
    Ledger.mayOverdraw granted address = true ↔
      address = Address.world ∨
        ∃ reference ∈ grantedReferences sends, resolve [] reference = .ok address := by
  obtain ⟨accounts, resolved, made⟩ := bind_eq_ok.mp h
  obtain rfl := Except.ok.inj made
  have listed (account : Text) :
      (account, true) ∈ Entries.ofPairs ((Address.world, true) ::
          accounts.map fun account => (account, true)) ↔
        account = Address.world ∨
          ∃ reference ∈ grantedReferences sends, resolve [] reference = .ok account := by
    rw [← mem_of_mapM_eq_ok resolved, ← List.mem_cons]
    exact Entries.mem_ofPairs_const (Address.world :: accounts)
  -- Whatever is listed is a full address.
  have full {account : Text} (h : account = Address.world ∨
      ∃ reference ∈ grantedReferences sends, resolve [] reference = .ok account) :
      Address.normalize account = account := by
    rcases h with rfl | ⟨reference, -, found⟩
    · exact Address.normalize_world
    · exact resolve_isFull found
  rw [Ledger.mayOverdraw_iff]
  constructor
  · rintro (outside | ⟨account, mem, rfl⟩)
    · exact Or.inl outside
    · rw [full ((listed account).mp mem)]
      exact (listed account).mp mem
  · intro found
    exact Or.inr ⟨address, (listed address).mpr found, full found⟩

/-- Whether overdrafts let every account go below zero that sends grant an overdraft. -/
def Covers (granted : Entries Text Bool) (sends : List Send) : Prop :=
  ∀ reference ∈ grantedReferences sends, ∀ account,
    resolve [] reference = .ok account → Ledger.mayOverdraw granted account = true

theorem covers_append {granted : Entries Text Bool} {first second : List Send} :
    Covers granted (first ++ second) ↔ Covers granted first ∧ Covers granted second := by
  unfold Covers grantedReferences
  rw [List.flatMap_append, List.forall_mem_append]

theorem covers_overdrafts {sends : List Send} {granted : Entries Text Bool}
    (h : overdrafts sends = .ok granted) : Covers granted sends := by
  intro reference mem account found
  exact (mayOverdraw_overdrafts h account).mpr (Or.inr ⟨reference, mem, found⟩)

/-- A script of sends alone. -/
def ofSends (sends : List Send) : Script :=
  { declarations := [], sends, notes := [], failures := [] }

end Script

namespace Ledger

/-! ## Scripts of sends -/

/-- Run sends one after the other, each as a script of its own. -/
def runEach (ledger : Ledger) : List Send → Except Fault (List Transaction × Ledger)
  | [] => .ok ([], ledger)
  | send :: rest =>
    match ledger.runScript (.ofSends [send]) with
    | (.error fault, _) => .error fault
    | (.ok tx, next) => do
      let (txs, last) ← next.runEach rest
      return (tx :: txs, last)

variable {ledger : Ledger}

theorem runEach_cons {send : Send} {rest : List Send} {txs : List Transaction} {last : Ledger} :
    ledger.runEach (send :: rest) = .ok (txs, last) ↔
      ∃ tx next others, ledger.runScript (.ofSends [send]) = (.ok tx, next) ∧
        next.runEach rest = .ok (others, last) ∧ txs = tx :: others := by
  rw [runEach]
  cases ledger.runScript (.ofSends [send]) with
  | mk answer next =>
      cases answer with
      | error fault =>
          constructor
          · rintro ⟨⟩
          · rintro ⟨tx, after, others, ⟨⟩, -⟩
      | ok tx =>
          dsimp only
          rw [bind_eq_ok]
          constructor
          · rintro ⟨⟨others, final⟩, later, joined⟩
            obtain ⟨rfl, rfl⟩ := Prod.mk.inj (Except.ok.inj joined)
            exact ⟨tx, next, others, rfl, later, rfl⟩
          · rintro ⟨first, after, others, ⟨⟩, later, rfl⟩
            exact ⟨_, later, rfl⟩

theorem propose_eq_ok {script : Script} {proposal : Proposal} :
    ledger.propose script = .ok proposal ↔
      ∃ postings overlay overdrafts,
        ledger.executeSends [] [] script.sends = .ok (postings, overlay) ∧
        Script.overdrafts script.sends = .ok overdrafts ∧
        proposal =
          { postings, metadata := script.transactionNotes, overdrafts, reference := .null } := by
  unfold propose
  rw [bind_eq_ok]
  constructor
  · rintro ⟨⟨postings, overlay⟩, planned, later⟩
    obtain ⟨overdrafts, granted, made⟩ := bind_eq_ok.mp later
    exact ⟨postings, overlay, overdrafts, planned, granted, (Except.ok.inj made).symm⟩
  · rintro ⟨postings, overlay, overdrafts, planned, granted, rfl⟩
    exact ⟨_, planned, bind_eq_ok.mpr ⟨overdrafts, granted, rfl⟩⟩

/-- A script of sends does what the commit of its proposal does. -/
theorem runScript_ofSends {sends : List Send} {proposal : Proposal}
    (proposed : ledger.propose (.ofSends sends) = .ok proposal) :
    ledger.runScript (.ofSends sends) = ledger.commitAloud proposal := by
  rw [runScript, proposed]
  dsimp only
  cases ledger.commitAloud proposal with
  | mk answer after => cases answer <;> rfl

/-- A script of sends that is answered with its transaction has committed it, on a ledger that
shows it if it shows anything. -/
theorem commit_of_runScript {sends : List Send} {tx : Transaction} {after : Ledger}
    (h : ledger.runScript (.ofSends sends) = (.ok tx, after)) :
    ¬ledger.cannotReport ∧ (ledger.verbose = true → Receipt.IsLegible tx) ∧
      ∃ proposal, ledger.propose (.ofSends sends) = .ok proposal ∧
        ledger.commit proposal = .ok (tx, after) := by
  cases proposed : ledger.propose (.ofSends sends) with
  | error fault =>
      rw [runScript, proposed] at h
      cases h
  | ok proposal =>
      rw [runScript_ofSends proposed] at h
      obtain ⟨made, reports, legible⟩ := commitAloud_eq_ok h
      exact ⟨reports, legible, proposal, rfl, made⟩

/-! ## Postings in place of sends -/

/-- On a ledger some postings do what sends do that lead to another ledger, in one
transaction: whoever grants the overdrafts of the sends, and perhaps others, can commit
them, and the balances are those of the other ledger. -/
structure StandFor (postings : List Posting) (sends : List Send) (ledger last : Ledger) :
    Prop where
  full : ∀ posting ∈ postings, posting.isFull
  granted : ∀ reference ∈ Script.grantedReferences sends,
    ∃ account, Script.resolve [] reference = .ok account
  affords : ∀ overdrafts, Script.Covers overdrafts sends → Affords overdrafts ledger postings
  balances : (ledger.transferAll postings).SameBalances last

theorem StandFor.nil (ledger : Ledger) : StandFor [] [] ledger ledger where
  full := by simp
  granted := by simp [Script.grantedReferences]
  affords := fun _ _ => trivial
  balances := SameBalances.refl ledger

theorem StandFor.append {first second : List Posting} {sends others : List Send}
    {mid last : Ledger} (here : StandFor first sends ledger mid)
    (later : StandFor second others mid last) :
    StandFor (first ++ second) (sends ++ others) ledger last where
  full := by
    intro posting mem
    exact (List.mem_append.mp mem).elim (here.full posting) (later.full posting)
  granted := by
    intro reference mem
    rw [Script.grantedReferences, List.flatMap_append] at mem
    exact (List.mem_append.mp mem).elim (here.granted reference) (later.granted reference)
  affords := by
    intro overdrafts covers
    obtain ⟨coversHere, coversLater⟩ := Script.covers_append.mp covers
    refine affords_append.mpr ⟨here.affords overdrafts coversHere, ?_⟩
    exact (later.affords overdrafts coversLater).mono later.full (fun _ => id)
      fun address asset => (here.balances address asset).symm
  balances := by
    intro address asset
    rw [transferAll_append]
    calc last.balance address asset
        = (mid.transferAll second).balance address asset := later.balances address asset
      _ = ((ledger.transferAll first).transferAll second).balance address asset :=
          here.balances.transferAll later.full address asset

/-- The postings of a send that was committed stand for it. -/
theorem standFor_single {send : Send} {tx : Transaction} {after : Ledger}
    (h : ledger.runScript (.ofSends [send]) = (.ok tx, after)) :
    ∃ postings, ledger.sendPostings [] [] send = .ok postings ∧
      tx.postings = postings.map Posting.normalize ∧
      StandFor tx.postings [send] ledger after := by
  obtain ⟨-, -, proposal, proposed, made⟩ := commit_of_runScript h
  obtain ⟨postings, overlay, overdrafts, planned, granting, rfl⟩ := propose_eq_ok.mp proposed
  obtain ⟨here, others, worked, rest, joined⟩ := executeSends_cons.mp planned
  obtain ⟨rfl, -⟩ := executeSends_nil.mp rest
  rw [List.append_nil] at joined
  obtain rfl := joined
  obtain ⟨recorded, left⟩ := commit_ok made
  refine ⟨_, worked, by rw [recorded]; rfl, commit_isFull made, ?_, ?_, ?_⟩
  · exact Script.exists_overdrafts_iff.mp ⟨overdrafts, granting⟩
  · intro more covers
    have afforded : Affords overdrafts ledger tx.postings := by
      rw [recorded]
      exact exists_commit_iff.mp ⟨tx, after, made⟩
    refine afforded.mono (commit_isFull made) ?_ (SameBalances.refl ledger)
    intro address may
    rcases (Script.mayOverdraw_overdrafts granting address).mp may with rfl | ⟨reference, mem, found⟩
    · exact (mayOverdraw_iff more _).mpr (Or.inl rfl)
    · exact covers reference mem address found
  · intro address asset
    rw [left, record, balance_eq, balance_eq]
    rfl

/-- Over an overlay that shows the balances of a ledger, the plan of some sends makes the
same postings as the sends on that ledger, one after the other. -/
theorem executeSends_runEach {reached last : Ledger} {overlay : Overlay}
    (foreseen : overlay.Foresees ledger reached) {sends : List Send} {txs : List Transaction}
    (h : reached.runEach sends = .ok (txs, last)) :
    ∃ postings final, ledger.executeSends [] overlay sends = .ok (postings, final) ∧
      postings.map Posting.normalize = txs.flatMap Transaction.postings ∧
      StandFor (txs.flatMap Transaction.postings) sends reached last := by
  induction sends generalizing reached overlay txs with
  | nil =>
      obtain ⟨rfl, rfl⟩ := Prod.mk.inj (Except.ok.inj h)
      exact ⟨[], overlay, rfl, rfl, StandFor.nil reached⟩
  | cons send rest ih =>
      obtain ⟨tx, next, others, ran, later, rfl⟩ := runEach_cons.mp h
      obtain ⟨here, worked, recorded, stands⟩ := standFor_single ran
      -- The overlay behind the send shows the balances that the send left.
      have moved : (here.foldl Overlay.post overlay).Foresees ledger next := by
        refine (foreseen.postAll here).congr ?_
        rw [← recorded]
        exact stands.balances
      obtain ⟨behind, final, planned, same, standRest⟩ := ih moved later
      have planHere : ledger.sendPostings overlay [] send = .ok here := by
        rw [← worked]
        refine sendPostings_congr (fun account asset => ?_) [] send
        rw [foreseen, Overlay.Foresees.start]
      rw [List.flatMap_cons]
      refine ⟨here ++ behind, final, ?_, ?_, stands.append standRest⟩
      · exact executeSends_cons.mpr ⟨here, behind, planHere, planned, rfl⟩
      · rw [List.map_append, same, recorded]

/-- A verbose ledger can show all postings of sends that were run one after the other. -/
theorem fits_runEach {ledger last : Ledger} {sends : List Send} {txs : List Transaction}
    (verbose : ledger.verbose = true) (h : ledger.runEach sends = .ok (txs, last)) :
    ∀ posting ∈ txs.flatMap Transaction.postings, Decimal.fits posting.amount = true := by
  induction sends generalizing ledger txs with
  | nil =>
      obtain ⟨rfl, -⟩ := Prod.mk.inj (Except.ok.inj h)
      exact nofun
  | cons send rest ih =>
      obtain ⟨tx, next, others, ran, later, rfl⟩ := runEach_cons.mp h
      obtain ⟨-, legible, proposal, -, made⟩ := commit_of_runScript ran
      have loud : next.verbose = true := by
        rw [commit_frame made]
        exact verbose
      rw [List.flatMap_cons]
      exact List.forall_mem_append.mpr ⟨fun posting => (legible verbose).fits_amount, ih loud later⟩

/-! ## Composition -/

/-- A script does what its sends do as scripts of their own. When these succeed one after
the other, it commits one transaction with all their postings in order, and leaves the same
balances. Only a script without sends can fail to be answered with its transaction: on a
ledger that cannot report it. -/
theorem runScript_composes {ledger each : Ledger} {sends : List Send} {txs : List Transaction}
    (h : ledger.runEach sends = .ok (txs, each)) :
    ∃ tx after, (ledger.runScript (.ofSends sends)).2 = after ∧
      ((ledger.runScript (.ofSends sends)).1 = .ok tx ∨ sends = [] ∧ ledger.cannotReport) ∧
      after.log = ledger.log ++ [tx] ∧
      tx.postings = txs.flatMap Transaction.postings ∧
      ∀ address asset, after.balance address asset = each.balance address asset := by
  obtain ⟨postings, final, planned, same, stands⟩ :=
    executeSends_runEach (Overlay.Foresees.start ledger) h
  obtain ⟨overdrafts, granting⟩ := Script.exists_overdrafts_iff.mpr stands.granted
  let proposal : Proposal := { postings, metadata := [], overdrafts, reference := .null }
  have proposed : ledger.propose (.ofSends sends) = .ok proposal :=
    propose_eq_ok.mpr ⟨postings, final, overdrafts, planned, granting, rfl⟩
  have afforded : Affords proposal.overdrafts ledger
      (proposal.postings.map Posting.normalize) := by
    change Affords overdrafts ledger (postings.map Posting.normalize)
    rw [same]
    exact stands.affords overdrafts (Script.covers_overdrafts granting)
  obtain ⟨tx, after, made⟩ := exists_commit_iff.mpr afforded
  have recorded : tx.postings = txs.flatMap Transaction.postings := by
    rw [(commit_ok made).1, ← same]
    rfl
  -- The transaction shows no numbers but those of its sends, each of which was shown.
  have legible : ledger.verbose = true → Receipt.IsLegible tx := by
    intro verbose
    refine Receipt.isLegible_of_plain (by rw [(commit_ok made).1]; rfl) ?_
    rw [recorded]
    exact fits_runEach verbose h
  obtain ⟨silent, aloud⟩ := commitAloud_unreferenced made rfl legible
  rw [runScript_ofSends proposed]
  refine ⟨tx, after, commitAloud_ok ledger made, ?_, by rw [commit_frame made], recorded, ?_⟩
  · by_cases unsaid : ledger.cannotReport
    · right
      refine ⟨?_, unsaid⟩
      cases sends with
      | nil => rfl
      | cons send rest =>
          obtain ⟨first, next, others, ran, -, -⟩ := runEach_cons.mp h
          exact absurd unsaid (commit_of_runScript ran).1
    · left
      rw [aloud unsaid]
  · intro address asset
    rw [stands.balances, ← recorded, (commit_ok made).2, record, balance_eq, balance_eq]
    rfl

/-- A payment that is held back first. -/
def escrowed : List Send :=
  [{ monetary := { asset := "USD/2", quantity := .exactly 50 }
     sources := [{ account := "@world", cap := none, overdraft := .refused }]
     destinations := [{ receiver := .account "@escrow", portion := none }] },
   { monetary := { asset := "USD/2", quantity := .exactly 50 }
     sources := [{ account := "@escrow", cap := none, overdraft := .refused }]
     destinations := [{ receiver := .account "@merchant", portion := none }] }]

/-- The payment succeeds send by send, so it does as one script. -/
theorem escrowed_composes :
    let fresh := create (.text "main") none false
    ∃ txs each, fresh.runEach escrowed = .ok (txs, each) ∧
      ∃ tx after, fresh.runScript (.ofSends escrowed) = (.ok tx, after) ∧
        tx.postings = txs.flatMap Transaction.postings ∧
        ∀ address asset, after.balance address asset = each.balance address asset := by
  intro fresh
  have succeeded : (fresh.runEach escrowed).isOk = true := by decide +kernel
  cases ran : fresh.runEach escrowed with
  | error fault =>
      rw [ran] at succeeded
      cases succeeded
  | ok result =>
      obtain ⟨txs, each⟩ := result
      obtain ⟨tx, after, left, answered, -, recorded, same⟩ := runScript_composes ran
      have spoken : (fresh.runScript (.ofSends escrowed)).1 = .ok tx :=
        answered.resolve_right fun silent => absurd silent.1 (by decide)
      exact ⟨txs, each, rfl, tx, after, Prod.ext spoken left, recorded, same⟩

end Ledger

end DoubleEntry
