import DoubleEntry.Proofs.Execution.Monotone
import DoubleEntry.Proofs.Faults
import DoubleEntry.Proofs.Ledger.Overdraft
import DoubleEntry.Proofs.Metadata

/-!
# How runs are refused

Whatever is wrong with a script and whatever its accounts lack is reported as a fault of the
ledger: the numbers of such a fault are no larger than the amounts of the script, which could
be read, so that they can be written. There are two exceptions. Portions can exceed their total
by any amount, and a variable can stand for a number of any length, which cannot take the place
of a placeholder then.
-/

namespace DoubleEntry

namespace Fault

/-- Portions that exceed their total by so much that it cannot be written. -/
def IsUntold (fault : Fault) : Prop :=
  ∃ total excess, fault = .portionsExceed total excess ∧ Decimal.fits excess = false

/-- Whether a fault is one that a run of a script is documented to fail with. It is reported as
it is, unless it cannot be. -/
def IsOfRun (fault : Fault) : Prop :=
  (fault.kind = .insufficientFunds ∨ fault.kind = .unsupported ∨ fault.kind = .execution) ∧
    (fault.reported = fault ∨ fault.IsUntold)

/-- Such portions are not reported as a fault of the ledger. -/
theorem IsUntold.isLedgerFault_eq_false {fault : Fault} (untold : fault.IsUntold) :
    fault.isLedgerFault = false := by
  obtain ⟨total, excess, rfl, unwritten⟩ := untold
  refine Bool.eq_false_iff.mpr fun told => ?_
  have fit := ((isLedgerFault_iff _).mp told).2 excess
    (List.mem_cons_of_mem _ (List.mem_singleton_self excess))
  rw [unwritten] at fit
  cases fit

theorem IsOfRun.isUntold {fault : Fault} (known : fault.IsOfRun)
    (foreign : fault.isLedgerFault = false) : fault.IsUntold := by
  refine known.2.resolve_left fun told => ?_
  rw [isLedgerFault, told] at foreign
  rcases known.1 with kind | kind | kind <;> rw [kind] at foreign <;> cases foreign

theorem isOfRun_unbound (reference : Text) : (unbound reference).IsOfRun :=
  ⟨Or.inr (Or.inr rfl), Or.inl rfl⟩

theorem isOfRun_badPortion (portion : Text) : (badPortion portion).IsOfRun :=
  ⟨Or.inr (Or.inr rfl), Or.inl rfl⟩

theorem isOfRun_everythingAsked (asset : Text) : (everythingAsked asset).IsOfRun :=
  ⟨Or.inr (Or.inl rfl), Or.inl rfl⟩

theorem isOfRun_shortfall {asset : Text} {missing need : Int} (nonneg : 0 ≤ missing)
    (le : missing ≤ need) (fit : Decimal.fits need = true) :
    (shortfall (.text asset) missing).IsOfRun := by
  refine ⟨Or.inl rfl, Or.inl (reported_of_fits ?_)⟩
  exact List.forall_mem_singleton.mpr (Decimal.fits_of_le nonneg le fit)

theorem isOfRun_overdrawn {account asset : Text} {available required : Int}
    (nonneg : 0 ≤ available) (short : available < required)
    (fit : Decimal.fits required = true) :
    (overdrawn account asset available required).IsOfRun := by
  have most := Decimal.fits_of_le nonneg (Int.le_of_lt short) fit
  refine ⟨Or.inl rfl, Or.inl (reported_of_fits ?_)⟩
  exact List.forall_mem_cons.mpr ⟨most, List.forall_mem_singleton.mpr fit⟩

theorem isOfRun_portionsExceed {total excess : Int} (fit : Decimal.fits total = true) :
    (portionsExceed total excess).IsOfRun := by
  refine ⟨Or.inr (Or.inr rfl), ?_⟩
  cases written : Decimal.fits excess with
  | true =>
      refine Or.inl (reported_of_fits ?_)
      exact List.forall_mem_cons.mpr ⟨fit, List.forall_mem_singleton.mpr written⟩
  | false => exact Or.inr ⟨total, excess, rfl, written⟩

end Fault

/-! ## Sends that were read -/

theorem Monetary.fits_of_ofText {t : Text} {m : Monetary} (h : ofText t = .ok m) {amount : Nat}
    (asked : m.quantity = .exactly amount) : Decimal.fits amount = true := by
  unfold ofText at h
  split at h
  · unfold ofParts at h
    split at h
    · obtain rfl := Except.ok.inj h
      cases asked
    · split at h
      · next short =>
          obtain rfl := Except.ok.inj h
          obtain rfl := Quantity.exactly.inj asked
          exact Decimal.fits_value short
      · cases h
  · cases h

/-- The literal of a send was read as well. -/
theorem Send.monetary_of_ofText {statement : Text} {send : Send} (h : ofText statement = .ok send) :
    ∃ t, Monetary.ofText t = .ok send.monetary := by
  unfold ofText at h
  split at h
  · next found _ => exact ⟨found.value.amount, (clauses_of_ofParts h).1⟩
  · cases h

theorem Script.ofText_of_mem_sends {t : Text} {send : Send} (mem : send ∈ (ofText t).sends) :
    ∃ statement, Send.ofText statement = .ok send := by
  obtain ⟨read, listed, right⟩ := List.mem_filterMap.mp mem
  obtain ⟨found, -, rfl⟩ := List.mem_map.mp listed
  unfold readStatement at right
  split at right
  · next made =>
      obtain rfl := Option.some.inj right
      exact ⟨_, made⟩
  · cases right

theorem Script.isWellFormed_of_mem_sends {t : Text} {send : Send} (mem : send ∈ (ofText t).sends) :
    send.IsWellFormed := by
  obtain ⟨statement, read⟩ := ofText_of_mem_sends mem
  exact Send.isWellFormed_ofText read

/-- What a script notes on its transaction are texts, and no numbers. -/
theorem Script.numbers_transactionNotes (script : Script) :
    ∀ entry ∈ script.transactionNotes, entry.1.numbers = [] ∧ entry.2.numbers = [] := by
  refine Metadata.forall_mem_ofPairs (P := fun value => value.numbers = []) fun pair mem => ?_
  obtain ⟨note, -, noted⟩ := List.mem_filterMap.mp mem
  cases note with
  | transaction key value =>
      obtain rfl := Option.some.inj noted
      exact ⟨rfl, rfl⟩
  | account account key value => cases noted

/-! ## Postings of a send -/

/-- Every posting takes something from the account of a draw, no more than was drawn, and gives
it to the account of an allocation. -/
theorem mem_pair {asset : Text} {draws : List Draw} {allocations : List Allocation}
    {postings : List Posting} (paired : pair asset draws allocations = .ok postings)
    {posting : Posting} (mem : posting ∈ postings) :
    ∃ draw ∈ draws, ∃ allocation ∈ allocations, posting.source = draw.account ∧
      posting.destination = allocation.account ∧ posting.asset = asset ∧
      0 < posting.amount ∧ posting.amount ≤ draw.amount := by
  induction draws, allocations using pair.induct generalizing postings with
  | case1 allocations =>
      rw [pair] at paired
      obtain rfl := Except.ok.inj paired
      cases mem
  | case2 draws nonempty =>
      rw [pair_nil] at paired
      obtain rfl := Except.ok.inj paired
      cases mem
  | case3 draw draws allocation allocations used ih =>
      rw [pair, if_pos used] at paired
      exact List.exists_mem_cons_of_exists (ih paired mem)
  | case4 draw draws allocation allocations unused filled ih =>
      rw [pair, if_neg unused, if_pos filled] at paired
      obtain ⟨giver, given, taker, taken, moved⟩ := ih paired mem
      exact ⟨giver, given, taker, List.mem_cons_of_mem _ taken, moved⟩
  | case5 draw draws allocation allocations unused unfilled fits ih =>
      rw [pair, if_neg unused, if_neg unfilled, if_pos fits] at paired
      obtain ⟨first, others, made, behind, rfl⟩ := cons_eq_ok.mp paired
      rcases List.mem_cons.mp mem with rfl | there
      · obtain ⟨source, destination, unit, amount⟩ := Posting.make_eq_ok made
        exact ⟨draw, List.mem_cons_self, allocation, List.mem_cons_self, source, destination, unit,
          by omega, by omega⟩
      · obtain ⟨giver, given, taker, taken, moved⟩ := ih behind there
        rcases List.mem_cons.mp taken with rfl | further
        · exact ⟨giver, List.mem_cons_of_mem _ given, allocation, List.mem_cons_self, moved⟩
        · exact ⟨giver, List.mem_cons_of_mem _ given, taker, List.mem_cons_of_mem _ further, moved⟩
  | case6 draw draws allocation allocations unused unfilled exceeds ih =>
      rw [pair, if_neg unused, if_neg unfilled, if_neg exceeds] at paired
      obtain ⟨first, others, made, behind, rfl⟩ := cons_eq_ok.mp paired
      rcases List.mem_cons.mp mem with rfl | there
      · obtain ⟨source, destination, unit, amount⟩ := Posting.make_eq_ok made
        exact ⟨draw, List.mem_cons_self, allocation, List.mem_cons_self, source, destination, unit,
          by omega, by omega⟩
      · obtain ⟨giver, given, taker, taken, source, destination, unit, some_, within⟩ :=
          ih behind there
        have further : taker ∈ allocation :: allocations := List.mem_cons_of_mem _ taken
        rcases List.mem_cons.mp given with rfl | later
        · exact ⟨draw, List.mem_cons_self, taker, further, source, destination, unit, some_,
            Nat.le_trans within (Nat.sub_le _ _)⟩
        · exact ⟨giver, List.mem_cons_of_mem _ later, taker, further, source, destination, unit,
            some_, within⟩

/-! ## Working sends out -/

namespace Portion

theorem failsOnly_amountOf {P : Fault → Prop} (bad : ∀ portion, P (.badPortion portion))
    (portion : Text) (total : Int) : FailsOnly P (amountOf portion total) := by
  refine FailsOnly.bind ?_ fun share _ => ?_
  · unfold share
    split_ifs
    · exact failsOnly_ok _
    · split
      · exact failsOnly_ok _
      · exact failsOnly_error (bad portion)
    · split
      · exact failsOnly_ok _
      · exact failsOnly_error (bad portion)
    · exact failsOnly_ok _
  · cases share with
    | none => exact failsOnly_ok _
    | some ratio => exact failsOnly_ok _

end Portion

section Steps

variable {P : Fault → Prop} {vars : Variables}
  (resolved : ∀ reference, FailsOnly P (Script.resolve vars reference))
include resolved

theorem Destination.failsOnly_splitLeft {total : Int} (bad : ∀ portion, P (.badPortion portion))
    (exceeds : ∀ excess, P (.portionsExceed total excess)) (left : Int)
    (destinations : List (Text × Option Text)) :
    FailsOnly P (splitLeft vars total left destinations) := by
  induction destinations generalizing left with
  | nil => exact failsOnly_ok []
  | cons destination rest ih =>
      obtain ⟨reference, portion⟩ := destination
      have behind (account : Text) (amount : Int) : FailsOnly P (do
          if left < amount then throw (Fault.portionsExceed total (amount - left))
          let others ← splitLeft vars total (left - amount) rest
          return ({ account, amount } : Allocation) :: others) := by
        by_cases beyond : left < amount
        · rw [if_pos beyond]
          exact failsOnly_error (exceeds _)
        · rw [if_neg beyond]
          exact (ih _).bind fun others _ => failsOnly_ok _
      refine (resolved reference).bind fun account _ => ?_
      cases ownPortion? rest.isEmpty portion with
      | some given =>
          exact (Portion.failsOnly_amountOf bad given total).bind fun amount _ => behind account amount
      | none => exact behind account left

namespace Ledger

variable {ledger : Ledger} {overlay : Overlay} {asset : Text}

theorem failsOnly_drawFrom (needed : Nat) (sources : List Source) :
    FailsOnly P (ledger.drawFrom overlay vars asset needed sources) := by
  induction sources generalizing needed with
  | nil =>
      rw [drawFrom]
      exact failsOnly_ok _
  | cons source rest ih =>
      cases needed with
      | zero =>
          rw [drawFrom]
          exact failsOnly_ok _
      | succ needed =>
          rw [drawFrom]
          · refine (resolved source.account).bind fun account _ => ?_
            exact (ih _).bind fun drawn _ => failsOnly_ok _
          · exact Nat.succ_ne_zero needed

theorem failsOnly_draw {needed : Nat}
    (short : ∀ missing : Nat, missing ≤ needed → P (.shortfall (.text asset) missing))
    (sources : List Source) : FailsOnly P (ledger.draw overlay vars asset sources needed) := by
  refine (failsOnly_drawFrom resolved needed sources).bind fun ⟨draws, left⟩ drawn => ?_
  have within := drawFrom_total drawn
  dsimp only
  split
  · exact failsOnly_error (short left (by omega))
  · exact failsOnly_ok _

end Ledger

end Steps

theorem Script.failsOnly_resolve (reference : Text) :
    FailsOnly Fault.IsOfRun (Script.resolve [] reference) := by
  by_cases free : isVariable reference
  · rw [resolve_variable free]
    exact failsOnly_error (Fault.isOfRun_unbound reference)
  · rw [resolve_address free]
    exact failsOnly_ok _

namespace Ledger

variable {ledger reached : Ledger} {overlay : Overlay}

/-- What is drawn for a send that was read can be paired with any split of its amount. -/
theorem failsOnly_pair {send : Send} (formed : send.IsWellFormed) {total : Nat} {draws : List Draw}
    (drawn : ledger.draw overlay [] send.monetary.asset send.sources total = .ok draws)
    {allocations : List Allocation}
    (handed : Destination.split [] total send.destinations = .ok allocations) :
    FailsOnly Fault.IsOfRun (pair send.monetary.asset draws allocations) := by
  obtain ⟨postings, paired, -⟩ := exists_pair_of_split formed drawn handed
  rw [paired]
  exact failsOnly_ok postings

theorem failsOnly_sendPostings {send : Send} {statement : Text}
    (read : Send.ofText statement = .ok send) :
    FailsOnly Fault.IsOfRun (ledger.sendPostings overlay [] send) := by
  unfold sendPostings
  cases asked : send.monetary.quantity with
  | everything => exact failsOnly_error (Fault.isOfRun_everythingAsked _)
  | exactly total =>
      obtain ⟨literal, spelled⟩ := Send.monetary_of_ofText read
      have fit := Monetary.fits_of_ofText spelled asked
      have short (missing : Nat) (within : missing ≤ total) :
          (Fault.shortfall (.text send.monetary.asset) missing).IsOfRun :=
        Fault.isOfRun_shortfall (Int.natCast_nonneg missing) (Int.ofNat_le.mpr within) fit
      have exceeds (excess : Int) : (Fault.portionsExceed total excess).IsOfRun :=
        Fault.isOfRun_portionsExceed fit
      refine (failsOnly_draw Script.failsOnly_resolve short send.sources).bind fun draws drawn => ?_
      refine (Destination.failsOnly_splitLeft Script.failsOnly_resolve Fault.isOfRun_badPortion
        exceeds total _).bind fun allocations handed => ?_
      exact failsOnly_pair (Send.isWellFormed_ofText read) drawn handed

theorem failsOnly_executeSends {sends : List Send}
    (read : ∀ send ∈ sends, ∃ statement, Send.ofText statement = .ok send) :
    FailsOnly Fault.IsOfRun (ledger.executeSends [] overlay sends) := by
  induction sends generalizing overlay with
  | nil => exact failsOnly_ok _
  | cons send rest ih =>
      obtain ⟨⟨statement, here⟩, later⟩ := List.forall_mem_cons.mp read
      have worked : FailsOnly Fault.IsOfRun (ledger.executeSend overlay [] send) := by
        rw [executeSend_eq]
        exact (failsOnly_sendPostings here).map _
      rw [executeSends]
      refine worked.bind ?_
      rintro ⟨postings, after⟩ -
      refine (ih later).bind ?_
      rintro ⟨others, last⟩ -
      exact failsOnly_ok _

theorem failsOnly_propose {script : Script}
    (read : ∀ send ∈ script.sends, ∃ statement, Send.ofText statement = .ok send) :
    FailsOnly Fault.IsOfRun (ledger.propose script) := by
  refine (failsOnly_executeSends read).bind fun ⟨postings, last⟩ _ => ?_
  refine FailsOnly.bind ?_ fun overdrafts _ => failsOnly_ok _
  refine FailsOnly.bind ?_ fun accounts _ => failsOnly_ok _
  exact FailsOnly.mapM fun reference _ => Script.failsOnly_resolve reference

/-! ## Committing what was worked out -/

variable {overdrafts : Entries Text Bool}

/-- A posting that is refused takes more than is there from an account that may not go below
zero. -/
theorem attempt_eq_error {posting : Posting} {fault : Fault}
    (refused : ledger.attempt overdrafts posting = .error fault) :
    ¬mayOverdraw overdrafts posting.source = true ∧
      ledger.balance posting.source posting.asset < posting.amount ∧
      fault = .overdrawn posting.source posting.asset
        (ledger.balance posting.source posting.asset) posting.amount := by
  unfold attempt at refused
  dsimp only at refused
  split at refused
  · next short =>
      obtain ⟨denied, less⟩ := Bool.and_eq_true_iff.mp short
      exact ⟨by simpa using denied, of_decide_eq_true less, (Except.error.inj refused).symm⟩
  · cases refused

/-- Every posting of a send that was read takes from the account of a source no more than can be
written. -/
theorem mem_sendPostings {send : Send} {statement : Text} (read : Send.ofText statement = .ok send)
    {postings : List Posting} (worked : ledger.sendPostings overlay [] send = .ok postings)
    {posting : Posting} (mem : posting ∈ postings) :
    ∃ source ∈ send.sources, ∃ draw : Draw,
      ledger.Allows overlay [] send.monetary.asset source draw ∧
        posting.source = draw.account ∧ posting.asset = send.monetary.asset ∧
        Decimal.fits posting.amount = true := by
  obtain ⟨total, draws, allocations, asked, drawn, -, paired⟩ := sendPostings_eq_ok.mp worked
  obtain ⟨left, waterfall, -⟩ := draw_eq_ok.mp drawn
  obtain ⟨draw, known, -, -, drawer, -, unit, -, within⟩ := mem_pair paired mem
  obtain ⟨source, offered, allowed⟩ := mem_drawFrom waterfall known
  obtain ⟨literal, spelled⟩ := Send.monetary_of_ofText read
  have most : posting.amount ≤ total := by
    have all := drawFrom_total waterfall
    have part := Draw.amount_le_total known
    omega
  refine ⟨source, offered, draw, allowed, drawer, unit, ?_⟩
  exact Decimal.fits_of_le (Int.natCast_nonneg _) (Int.ofNat_le.mpr most)
    (Monetary.fits_of_ofText spelled asked)

/-- The postings of a send that was read are refused only with numbers that can be written:
what its accounts held when it was worked out was not below zero, and the postings before the
refused one left nobody below zero. -/
theorem failsOnly_attemptAll_send (foreseen : overlay.Foresees ledger reached) {send : Send}
    {statement : Text} (read : Send.ofText statement = .ok send)
    (covers : Script.Covers overdrafts [send]) {postings : List Posting}
    (worked : ledger.sendPostings overlay [] send = .ok postings) :
    FailsOnly Fault.IsOfRun
      (reached.attemptAll overdrafts (postings.map Posting.normalize)) := by
  intro fault refused
  have full : ∀ posting ∈ postings.map Posting.normalize, posting.isFull :=
    List.forall_mem_map.mpr fun posting _ => posting.isFull_normalize
  obtain ⟨front, posting, rest, mid, listed, made, failed⟩ := foldlM_eq_error refused
  obtain ⟨denied, short, rfl⟩ := attempt_eq_error failed
  rw [listed] at full
  have mem : posting ∈ postings.map Posting.normalize := by
    rw [listed]
    exact List.mem_append_right _ List.mem_cons_self
  obtain ⟨given, there, rfl⟩ := List.mem_map.mp mem
  obtain ⟨source, offered, draw, allowed, drawer, unit, fit⟩ := mem_sendPostings read worked there
  have bare : Address.normalize draw.account = draw.account := Script.resolve_isFull allowed.1
  rw [Posting.normalize_source, drawer, bare] at denied short ⊢
  rw [Posting.normalize_asset, unit, Posting.normalize_amount] at short ⊢
  -- Whoever may not go below zero gave what the overlay showed, so it held that much before the
  -- first posting, and the postings in front of the refused one kept it from going below zero.
  have held := (allowed.held covers offered).resolve_left denied
  rw [foreseen] at held
  obtain ⟨floor, -⟩ := attemptAll_floor (by rwa [bare])
    (fun posting inside => full posting (List.mem_append_left _ inside)) made send.monetary.asset
  exact Fault.isOfRun_overdrawn (by omega) short fit

/-- So are those of a plan: behind each send the overlay shows what its postings leave. -/
theorem failsOnly_attemptAll (foreseen : overlay.Foresees ledger reached) {sends : List Send}
    (read : ∀ send ∈ sends, ∃ statement, Send.ofText statement = .ok send)
    (covers : Script.Covers overdrafts sends) {postings : List Posting} {last : Overlay}
    (planned : ledger.executeSends [] overlay sends = .ok (postings, last)) :
    FailsOnly Fault.IsOfRun
      (reached.attemptAll overdrafts (postings.map Posting.normalize)) := by
  induction sends generalizing overlay reached postings with
  | nil =>
      obtain ⟨rfl, -⟩ := executeSends_nil.mp planned
      exact failsOnly_ok reached
  | cons send rest ih =>
      obtain ⟨⟨statement, here⟩, later⟩ := List.forall_mem_cons.mp read
      obtain ⟨first, others, worked, behind, rfl⟩ := executeSends_cons.mp planned
      obtain ⟨coversHere, coversLater⟩ := Script.covers_append.mp
        (show Script.Covers overdrafts ([send] ++ rest) from covers)
      rw [List.map_append, attemptAll, List.foldlM_append]
      refine (failsOnly_attemptAll_send foreseen here coversHere worked).bind fun mid made => ?_
      rw [attemptAll_eq_transferAll made]
      exact ih (foreseen.postAll first) later coversLater behind

theorem failsOnly_commit {script : Script} {proposal : Proposal}
    (read : ∀ send ∈ script.sends, ∃ statement, Send.ofText statement = .ok send)
    (proposed : ledger.propose script = .ok proposal) :
    FailsOnly Fault.IsOfRun (ledger.commit proposal) := by
  obtain ⟨postings, overlay, overdrafts, planned, granted, rfl⟩ := propose_eq_ok.mp proposed
  rw [commit_eq]
  exact (failsOnly_attemptAll (Overlay.Foresees.start ledger) read
    (Script.covers_overdrafts granted) planned).map _

/-! ## Reporting what was committed -/

/-- The postings of sends that were read move no more than can be written. -/
theorem fits_executeSends {sends : List Send}
    (read : ∀ send ∈ sends, ∃ statement, Send.ofText statement = .ok send)
    {postings : List Posting} {last : Overlay}
    (planned : ledger.executeSends [] overlay sends = .ok (postings, last)) :
    ∀ posting ∈ postings, Decimal.fits posting.amount = true := by
  induction sends generalizing overlay postings with
  | nil =>
      obtain ⟨rfl, -⟩ := executeSends_nil.mp planned
      exact nofun
  | cons send rest ih =>
      obtain ⟨⟨statement, here⟩, later⟩ := List.forall_mem_cons.mp read
      obtain ⟨first, others, worked, behind, rfl⟩ := executeSends_cons.mp planned
      refine List.forall_mem_append.mpr ⟨fun posting mem => ?_, ih later behind⟩
      obtain ⟨-, -, -, -, -, -, fit⟩ := mem_sendPostings here worked mem
      exact fit

/-- A transaction that was drafted shows amounts that were read and notes that are texts, so
that all of it can be written. -/
theorem isLegible_of_draft {text : Text} {vars : Variables} {script : Script} {proposal : Proposal}
    {tx : Transaction} {after : Ledger} (drafted : ledger.draft text vars = .ok (script, proposal))
    (made : ledger.commit proposal = .ok (tx, after)) : Receipt.IsLegible tx := by
  obtain ⟨filled, -, rfl, proposed⟩ := draft_eq_ok.mp drafted
  obtain ⟨postings, overlay, overdrafts, planned, -, rfl⟩ := propose_eq_ok.mp proposed
  have moved : ∀ n ∈ (postings.map Posting.normalize).map fun posting => (posting.amount : Int),
      Decimal.fits n = true := by
    rw [List.map_map]
    exact List.forall_mem_map.mpr
      (fits_executeSends (fun send => Script.ofText_of_mem_sends) planned)
  rw [(commit_ok made).1]
  refine List.forall_mem_append.mpr ⟨moved, fun n mem => ?_⟩
  obtain ⟨⟨key, value⟩, noted, inside⟩ := List.mem_flatMap.mp mem
  obtain ⟨plainKey, plainValue⟩ := (Script.ofText filled).numbers_transactionNotes _ noted
  dsimp only at inside plainKey plainValue
  rw [plainKey, plainValue] at inside
  cases inside

/-- A draft is answered with its transaction when it is committed, just when the ledger can
report anything. -/
theorem commitAloud_draft {text : Text} {vars : Variables} {script : Script}
    {proposal : Proposal} {tx : Transaction} {after : Ledger}
    (drafted : ledger.draft text vars = .ok (script, proposal))
    (made : ledger.commit proposal = .ok (tx, after)) :
    (ledger.cannotReport → ledger.commitAloud proposal = (.error .wrongKind, after)) ∧
      (¬ledger.cannotReport → ledger.commitAloud proposal = (.ok tx, after)) := by
  have unreferenced : proposal.reference = .null := by
    obtain ⟨filled, -, rfl, proposed⟩ := draft_eq_ok.mp drafted
    obtain ⟨postings, overlay, overdrafts, -, -, rfl⟩ := propose_eq_ok.mp proposed
    rfl
  exact commitAloud_unreferenced made unreferenced fun _ => isLegible_of_draft drafted made

/-! ## Noting on accounts -/

theorem annotateAll_variable (ledger : Ledger) {notes : List (Text × Text × Text)}
    (h : ∃ note ∈ notes, Script.isVariable note.1) :
    ∃ reference, (ledger.annotateAll notes).1 = .error (.unbound reference) := by
  induction notes generalizing ledger with
  | nil =>
      obtain ⟨note, mem, -⟩ := h
      cases mem
  | cons note rest ih =>
      obtain ⟨reference, key, value⟩ := note
      unfold annotateAll
      by_cases here : Script.isVariable reference
      · rw [Script.resolve_variable here]
        exact ⟨reference, rfl⟩
      · rw [Script.resolve_address here]
        apply ih
        obtain ⟨note, mem, found⟩ := h
        rcases List.mem_cons.mp mem with rfl | later
        · exact absurd found here
        · exact ⟨note, later, found⟩

theorem annotateAll_addresses (ledger : Ledger) {notes : List (Text × Text × Text)}
    (h : ¬∃ note ∈ notes, Script.isVariable note.1) :
    (ledger.annotateAll notes).1 = .ok () := by
  induction notes generalizing ledger with
  | nil => rfl
  | cons note rest ih =>
      obtain ⟨reference, key, value⟩ := note
      have here : ¬Script.isVariable reference := fun found =>
        h ⟨_, List.mem_cons_self, found⟩
      unfold annotateAll
      rw [Script.resolve_address here]
      apply ih
      rintro ⟨note, mem, found⟩
      exact h ⟨note, List.mem_cons_of_mem _ mem, found⟩

theorem failsOnly_annotateAll (notes : List (Text × Text × Text)) :
    FailsOnly Fault.IsOfRun (ledger.annotateAll notes).1 := by
  induction notes generalizing ledger with
  | nil => exact failsOnly_ok ()
  | cons note rest ih =>
      obtain ⟨reference, key, value⟩ := note
      have here := Script.failsOnly_resolve reference
      unfold annotateAll
      cases found : Script.resolve [] reference with
      | error fault => exact failsOnly_error (here fault found)
      | ok account => exact ih

/-! ## Whole runs -/

section Run

variable {text : Text} {vars : Variables}

/-- A run that cannot be filled in fails for just that, and changes nothing. -/
theorem run_unfillable (unfillable : Placeholder.Unfillable vars text) :
    ledger.run text vars = (.error .unwritable, ledger) := by
  rw [run, Placeholder.substitute_unfillable unfillable]

/-- A run that can be filled in fails in a documented way, unless its ledger cannot report what
it commits. -/
theorem failsOnly_run (aloud : ¬ledger.cannotReport) (bound : ∃ bindings, vars.bind = .ok bindings)
    (fillable : ¬Placeholder.Unfillable vars text) :
    FailsOnly Fault.IsOfRun (ledger.run text vars).1 := by
  obtain ⟨bindings, bound⟩ := bound
  have drafting : FailsOnly Fault.IsOfRun (ledger.draft text vars) := by
    rw [draft, Placeholder.substitute_fillable bound fillable]
    exact (failsOnly_propose fun send => Script.ofText_of_mem_sends).bind fun _ _ => failsOnly_ok _
  rw [run_eq]
  cases drafted : ledger.draft text vars with
  | error fault => exact failsOnly_error (drafting fault drafted)
  | ok result =>
      obtain ⟨script, proposal⟩ := result
      dsimp only [conclude]
      cases made : ledger.commit proposal with
      | error fault =>
          obtain ⟨filled, -, rfl, proposed⟩ := draft_eq_ok.mp drafted
          rw [commitAloud_error ledger made]
          exact failsOnly_error
            (failsOnly_commit (fun send => Script.ofText_of_mem_sends) proposed fault made)
      | ok result =>
          obtain ⟨tx, after⟩ := result
          rw [(commitAloud_draft drafted made).2 aloud]
          exact (failsOnly_annotateAll script.accountNotes).map _

end Run

end Ledger

end DoubleEntry
