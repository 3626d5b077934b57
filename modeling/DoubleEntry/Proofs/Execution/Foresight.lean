import DoubleEntry.Proofs.Execution.Effect

/-!
# The overlay foresees the ledger

A send can be worked out in place: each posting is written to the overlay as it is made, and
nothing is taken back when a later one fails. For sends that were read nothing has to be taken
back, so that whatever comes of a row of sends, the overlay shows the balances that the ledger
has once the postings are committed.
-/

namespace DoubleEntry

/-! ## Working out in place -/

/-- Match draws with allocations, and write each posting to an overlay as it is made. -/
def pairOnto (asset : Text) :
    Overlay → List Draw → List Allocation → Except Fault (List Posting) × Overlay
  | overlay, [], _ => (.ok [], overlay)
  | overlay, _, [] => (.ok [], overlay)
  | overlay, draw :: draws, allocation :: allocations =>
    if draw.amount = 0 then pairOnto asset overlay draws (allocation :: allocations)
    else if allocation.amount = 0 then pairOnto asset overlay (draw :: draws) allocations
    else if (draw.amount : Int) ≤ allocation.amount then
      match Posting.make draw.account allocation.account asset draw.amount with
      | .error fault => (.error fault, overlay)
      | .ok posting =>
        let (rest, last) := pairOnto asset (overlay.post posting) draws
          ({ allocation with amount := allocation.amount - draw.amount } :: allocations)
        (rest.map (posting :: ·), last)
    else
      match Posting.make draw.account allocation.account asset allocation.amount with
      | .error fault => (.error fault, overlay)
      | .ok posting =>
        let (rest, last) := pairOnto asset (overlay.post posting)
          ({ draw with amount := draw.amount - allocation.amount.toNat } :: draws) allocations
        (rest.map (posting :: ·), last)
termination_by _ draws allocations => draws.length + allocations.length

namespace Ledger

/-- Work a send out in place: the postings, or what is wrong, and the overlay as it is left. -/
def executeOnto (ledger : Ledger) (overlay : Overlay) (vars : Variables) (send : Send) :
    Except Fault (List Posting) × Overlay :=
  match send.monetary.quantity with
  | .everything => (.error (.everythingAsked send.monetary.asset), overlay)
  | .exactly total =>
    match ledger.draw overlay vars send.monetary.asset send.sources total with
    | .error fault => (.error fault, overlay)
    | .ok draws =>
      match Destination.split vars total send.destinations with
      | .error fault => (.error fault, overlay)
      | .ok allocations => pairOnto send.monetary.asset overlay draws allocations

/-- Work sends out in place one after the other, those that fail among them. -/
def executeAllOnto (ledger : Ledger) (vars : Variables) :
    Overlay → List Send → List (Except Fault (List Posting)) × Overlay
  | overlay, [] => ([], overlay)
  | overlay, send :: rest =>
    let (outcome, next) := ledger.executeOnto overlay vars send
    let (others, last) := executeAllOnto ledger vars next rest
    (outcome :: others, last)

/-- The postings of all that went well. -/
def returned (outcomes : List (Except Fault (List Posting))) : List Posting :=
  outcomes.flatMap fun outcome => outcome.toOption.getD []

end Ledger

/-- Draws that are paid out are paid out in place, with all postings on the overlay. -/
theorem pairOnto_of_pair {asset : Text} {draws : List Draw} {allocations : List Allocation}
    {postings : List Posting} (paired : pair asset draws allocations = .ok postings)
    (overlay : Overlay) :
    pairOnto asset overlay draws allocations =
      (.ok postings, postings.foldl Overlay.post overlay) := by
  induction draws, allocations using pair.induct generalizing overlay postings with
  | case1 allocations =>
      rw [pair] at paired
      obtain rfl := Except.ok.inj paired
      rw [pairOnto]
      rfl
  | case2 draws nonempty =>
      rw [pair_nil] at paired
      obtain rfl := Except.ok.inj paired
      rw [pairOnto]
      · rfl
      · exact nonempty
  | case3 draw draws allocation allocations used ih =>
      rw [pair, if_pos used] at paired
      rw [pairOnto, if_pos used]
      exact ih paired overlay
  | case4 draw draws allocation allocations unused filled ih =>
      rw [pair, if_neg unused, if_pos filled] at paired
      rw [pairOnto, if_neg unused, if_pos filled]
      exact ih paired overlay
  | case5 draw draws allocation allocations unused unfilled fits ih =>
      rw [pair, if_neg unused, if_neg unfilled, if_pos fits] at paired
      obtain ⟨posting, rest, made, later, rfl⟩ := cons_eq_ok.mp paired
      rw [pairOnto, if_neg unused, if_neg unfilled, if_pos fits, made]
      dsimp only
      rw [ih later (overlay.post posting)]
      rfl
  | case6 draw draws allocation allocations unused unfilled exceeds ih =>
      rw [pair, if_neg unused, if_neg unfilled, if_neg exceeds] at paired
      obtain ⟨posting, rest, made, later, rfl⟩ := cons_eq_ok.mp paired
      rw [pairOnto, if_neg unused, if_neg unfilled, if_neg exceeds, made]
      dsimp only
      rw [ih later (overlay.post posting)]
      rfl

namespace Ledger

variable {ledger reached : Ledger} {overlay : Overlay} {vars : Variables}

/-- A send that was read is worked out in place as it is worked out, and one that fails leaves
the overlay as it was. -/
theorem executeOnto_eq {send : Send} (formed : send.IsWellFormed) :
    ledger.executeOnto overlay vars send =
      match ledger.executeSend overlay vars send with
      | .ok (postings, after) => (.ok postings, after)
      | .error fault => (.error fault, overlay) := by
  rw [executeSend_eq]
  unfold executeOnto sendPostings
  cases send.monetary.quantity with
  | everything => rfl
  | exactly total =>
      dsimp only
      cases drawn : ledger.draw overlay vars send.monetary.asset send.sources total with
      | error fault => rfl
      | ok draws =>
          dsimp only [bind, Except.bind]
          cases split : Destination.split vars total send.destinations with
          | error fault => rfl
          | ok allocations =>
              obtain ⟨postings, paired, -⟩ := exists_pair_of_split formed drawn split
              dsimp only
              rw [pairOnto_of_pair paired overlay, paired]
              rfl

/-! ## What the overlay foresees -/

/-- Behind a send the overlay foresees the ledger behind its postings, which carry full
addresses. -/
theorem executeOnto_foresees (foreseen : overlay.Foresees ledger reached) (vars : Variables)
    {send : Send} (formed : send.IsWellFormed) :
    (∀ posting ∈ returned [(ledger.executeOnto overlay vars send).1], posting.isFull) ∧
      (ledger.executeOnto overlay vars send).2.Foresees ledger
        (reached.transferAll (returned [(ledger.executeOnto overlay vars send).1])) := by
  rw [executeOnto_eq formed, executeSend_eq]
  cases worked : ledger.sendPostings overlay vars send with
  | error fault => exact ⟨nofun, foreseen⟩
  | ok postings =>
      have full := isFull_of_sendPostings ledger formed worked
      have later := foreseen.postAll postings
      rw [(List.map_congr_left full).trans (List.map_id' postings)] at later
      have whole : returned [.ok postings] = postings := List.append_nil postings
      change (∀ posting ∈ returned [.ok postings], posting.isFull) ∧
        (postings.foldl Overlay.post overlay).Foresees ledger
          (reached.transferAll (returned [.ok postings]))
      rw [whole]
      exact ⟨full, later⟩

theorem executeAllOnto_foresees (foreseen : overlay.Foresees ledger reached) (vars : Variables)
    {sends : List Send} (formed : ∀ send ∈ sends, send.IsWellFormed) :
    (∀ posting ∈ returned (ledger.executeAllOnto vars overlay sends).1, posting.isFull) ∧
      (ledger.executeAllOnto vars overlay sends).2.Foresees ledger
        (reached.transferAll (returned (ledger.executeAllOnto vars overlay sends).1)) := by
  induction sends generalizing overlay reached with
  | nil => exact ⟨nofun, foreseen⟩
  | cons send rest ih =>
      obtain ⟨first, others⟩ := List.forall_mem_cons.mp formed
      obtain ⟨full, here⟩ := executeOnto_foresees foreseen vars first
      obtain ⟨fullLater, later⟩ := ih here others
      have parted : returned (ledger.executeAllOnto vars overlay (send :: rest)).1 =
          returned [(ledger.executeOnto overlay vars send).1] ++
            returned (ledger.executeAllOnto vars (ledger.executeOnto overlay vars send).2 rest).1 :=
        @List.flatMap_append _ _ [_] _ _
      rw [parted, transferAll_append]
      exact ⟨List.forall_mem_append.mpr ⟨full, fullLater⟩, later⟩

/-- Behind a row of sends that were read, the overlay shows for every account the balance of the
ledger with what the postings so far put in and take out. Each send is worked out in place with
the same outcome and the same overlay as otherwise, and leaves the overlay as it was if it
fails. If the postings are then committed, every account holds what the overlay showed. -/
theorem overlay_foresees_commit (ledger : Ledger) (vars : Variables) {sends : List Send}
    (read : ∀ send ∈ sends, ∃ statement, Send.ofText statement = .ok send) :
    let outcomes := (ledger.executeAllOnto vars [] sends).1
    let overlay := (ledger.executeAllOnto vars [] sends).2
    (∀ account asset, overlay.effective ledger account asset = ledger.balance account asset +
        Posting.credited (returned outcomes) (Address.normalize account) asset -
        Posting.debited (returned outcomes) (Address.normalize account) asset) ∧
      (∀ send ∈ sends, ∀ layer,
        (∀ postings after, ledger.executeOnto layer vars send = (.ok postings, after) ↔
          ledger.executeSend layer vars send = .ok (postings, after)) ∧
        ∀ fault after, ledger.executeOnto layer vars send = (.error fault, after) ↔
          ledger.executeSend layer vars send = .error fault ∧ after = layer) ∧
      ∀ proposal tx after, proposal.postings = returned outcomes →
        ledger.commit proposal = .ok (tx, after) → ∀ account asset,
          after.balance account asset = overlay.effective ledger account asset := by
  intro outcomes overlay
  have formed : ∀ send ∈ sends, send.IsWellFormed := by
    intro send mem
    obtain ⟨statement, spelled⟩ := read send mem
    exact Send.isWellFormed_ofText spelled
  obtain ⟨full, foreseen⟩ := executeAllOnto_foresees (Overlay.Foresees.start ledger) vars formed
  refine ⟨?_, ?_, ?_⟩
  · intro account asset
    rw [foreseen]
    exact balance_transferAll ledger full account asset
  · intro send mem layer
    rw [executeOnto_eq (formed send mem)]
    cases ledger.executeSend layer vars send with
    | error fault =>
        refine ⟨fun postings after => iff_of_false nofun nofun, fun other after => ?_⟩
        rw [Prod.mk.injEq, Except.error.injEq, Except.error.injEq, @eq_comm _ layer]
    | ok result =>
        obtain ⟨postings, after⟩ := result
        refine ⟨fun others later => ?_, fun fault later => iff_of_false nofun nofun⟩
        rw [Prod.mk.injEq, Except.ok.injEq, Except.ok.injEq, Prod.mk.injEq]
  · intro proposal tx after listed made account asset
    rw [balance_commit made, listed, (List.map_congr_left full).trans (List.map_id' _)]
    exact (foreseen account asset).symm

/-- Sends of which the second asks an account for more than it was given. -/
def relayed : List Send :=
  ([ "send [USD/2 100] ( source = @world destination = @a )",
     "send [USD/2 500] ( source = @a destination = @b )",
     "send [USD/2 30] ( source = @a destination = @b )" ] : List Text).filterMap
    fun statement => (Send.ofText statement).toOption

/-- They are worked out without the second, and committed as it was foreseen. -/
theorem relayed_foreseen :
    let ledger := create (.text "main") none false
    let outcomes := (ledger.executeAllOnto [] [] relayed).1
    let overlay := (ledger.executeAllOnto [] [] relayed).2
    let proposal : Proposal :=
      { postings := returned outcomes
        metadata := []
        overdrafts := [(Address.world, true)]
        reference := .null }
    (∀ send ∈ relayed, ∃ statement, Send.ofText statement = .ok send) ∧
      outcomes.map Except.isOk = [true, false, true] ∧
      overlay.effective ledger "a" "USD/2" = 70 ∧
      ∃ tx after, ledger.commit proposal = .ok (tx, after) ∧ after.balance "a" "USD/2" = 70 := by
  intro ledger outcomes overlay proposal
  have read : ∀ send ∈ relayed, ∃ statement, Send.ofText statement = .ok send := by
    intro send mem
    obtain ⟨statement, -, spelled⟩ := List.mem_filterMap.mp mem
    exact ⟨statement, toOption_eq_some.mp spelled⟩
  obtain ⟨-, -, committed⟩ := overlay_foresees_commit ledger [] read
  have shown : overlay.effective ledger "a" "USD/2" = 70 := by decide +kernel
  have succeeds : (ledger.commit proposal).isOk = true := by decide +kernel
  cases made : ledger.commit proposal with
  | error fault =>
      rw [made] at succeeds
      cases succeeds
  | ok result =>
      obtain ⟨tx, after⟩ := result
      refine ⟨read, by decide +kernel, shown, tx, after, rfl, ?_⟩
      rw [committed proposal tx after rfl made]
      exact shown

end Ledger

end DoubleEntry
