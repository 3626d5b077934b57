import DoubleEntry.Execution.Send
import DoubleEntry.Proofs.Ledger.Affordable
import Mathlib.Tactic.SplitIfs

/-!
# Plans

Sends are worked out over an overlay. At every point of the plan the overlay shows the
balances of the ledger on which the postings so far were made, and nothing but these
balances matters for the postings of the next send.
-/

namespace DoubleEntry

namespace Overlay

/-! ## What an overlay shows -/

/-- Whether an overlay over one ledger shows the balances of another. -/
def Foresees (overlay : Overlay) (ledger reached : Ledger) : Prop :=
  ∀ address asset, overlay.effective ledger address asset = reached.balance address asset

theorem Foresees.start (ledger : Ledger) : Foresees [] ledger ledger := by
  intro address asset
  rw [effective, change_nil, Int.add_zero]

variable {overlay : Overlay} {ledger reached : Ledger}

theorem Foresees.congr (foreseen : overlay.Foresees ledger reached) {other : Ledger}
    (same : reached.SameBalances other) : overlay.Foresees ledger other := by
  intro address asset
  rw [same, foreseen]

theorem Foresees.post (foreseen : overlay.Foresees ledger reached) (posting : Posting) :
    (overlay.post posting).Foresees ledger (reached.transfer posting.normalize) := by
  intro address asset
  have moved : (reached.transfer posting.normalize).balance address asset =
      reached.balance address asset +
        (if Address.normalize posting.destination = Address.normalize address ∧
          posting.asset = asset then (posting.amount : Int) else 0) -
        (if Address.normalize posting.source = Address.normalize address ∧
          posting.asset = asset then (posting.amount : Int) else 0) :=
    Ledger.balance_transfer reached posting.isFull_normalize address asset
  have before := foreseen address asset
  rw [effective] at before
  rw [effective, Overlay.post, change_credit, debit, change_credit, moved, ← before]
  split_ifs <;> omega

theorem Foresees.postAll (foreseen : overlay.Foresees ledger reached) (postings : List Posting) :
    (postings.foldl Overlay.post overlay).Foresees ledger
      (reached.transferAll (postings.map Posting.normalize)) := by
  induction postings generalizing overlay reached with
  | nil => exact foreseen
  | cons posting rest ih => exact ih (foreseen.post posting)

end Overlay

namespace Ledger

/-! ## Only balances matter -/

section Congruence

variable {ledger other : Ledger} {overlay layer : Overlay} {asset : Text}
  (same : ∀ account, overlay.effective ledger account asset = layer.effective other account asset)
include same

theorem drawFrom_congr (vars : Variables) (needed : Nat) (sources : List Source) :
    ledger.drawFrom overlay vars asset needed sources =
      other.drawFrom layer vars asset needed sources := by
  induction sources generalizing needed with
  | nil => rw [drawFrom, drawFrom]
  | cons source rest ih =>
      cases needed with
      | zero => rw [drawFrom, drawFrom]
      | succ needed => simp only [drawFrom, same, ih]

theorem draw_congr (vars : Variables) (sources : List Source) (needed : Nat) :
    ledger.draw overlay vars asset sources needed =
      other.draw layer vars asset sources needed := by
  rw [draw, drawFrom_congr same]
  rfl

end Congruence

/-- The postings of a send. -/
def sendPostings (ledger : Ledger) (overlay : Overlay) (vars : Variables) (send : Send) :
    Except Fault (List Posting) := do
  match send.monetary.quantity with
  | .everything => throw (.everythingAsked send.monetary.asset)
  | .exactly total =>
    let draws ← ledger.draw overlay vars send.monetary.asset send.sources total
    let allocations ← Destination.split vars total send.destinations
    pair send.monetary.asset draws allocations

theorem executeSend_eq (ledger : Ledger) (overlay : Overlay) (vars : Variables) (send : Send) :
    ledger.executeSend overlay vars send =
      (ledger.sendPostings overlay vars send).map fun postings =>
        (postings, postings.foldl Overlay.post overlay) := by
  unfold executeSend sendPostings
  cases send.monetary.quantity with
  | everything => rfl
  | exactly total =>
      dsimp only
      cases ledger.draw overlay vars send.monetary.asset send.sources total with
      | error fault => rfl
      | ok draws =>
          simp only [bind, Except.bind]
          cases Destination.split vars total send.destinations with
          | error fault => rfl
          | ok allocations => cases pair send.monetary.asset draws allocations <;> rfl

theorem executeSend_eq_ok {ledger : Ledger} {overlay after : Overlay} {vars : Variables}
    {send : Send} {postings : List Posting} :
    ledger.executeSend overlay vars send = .ok (postings, after) ↔
      ledger.sendPostings overlay vars send = .ok postings ∧
        after = postings.foldl Overlay.post overlay := by
  rw [executeSend_eq]
  cases ledger.sendPostings overlay vars send with
  | error fault => exact ⟨nofun, fun both => nomatch both.1⟩
  | ok others =>
      change Except.ok (others, _) = Except.ok (postings, after) ↔ _
      rw [Except.ok.injEq, Prod.mk.injEq, Except.ok.injEq, @eq_comm _ after]
      refine and_congr_right fun same => ?_
      rw [same]

theorem sendPostings_congr {ledger other : Ledger} {overlay layer : Overlay}
    (same : ∀ account asset,
      overlay.effective ledger account asset = layer.effective other account asset)
    (vars : Variables) (send : Send) :
    ledger.sendPostings overlay vars send = other.sendPostings layer vars send := by
  have drawn (total : Nat) := draw_congr (fun account => same account send.monetary.asset)
    vars send.sources total
  simp only [sendPostings, drawn]

/-! ## Plans send by send -/

variable {ledger : Ledger} {vars : Variables}

theorem executeSends_nil {overlay last : Overlay} {postings : List Posting} :
    ledger.executeSends vars overlay [] = .ok (postings, last) ↔
      postings = [] ∧ last = overlay := by
  rw [executeSends, Except.ok.injEq, Prod.mk.injEq, eq_comm, @eq_comm _ overlay]

theorem executeSends_cons {overlay last : Overlay} {send : Send} {rest : List Send}
    {postings : List Posting} :
    ledger.executeSends vars overlay (send :: rest) = .ok (postings, last) ↔
      ∃ here others, ledger.sendPostings overlay vars send = .ok here ∧
        ledger.executeSends vars (here.foldl Overlay.post overlay) rest = .ok (others, last) ∧
        postings = here ++ others := by
  rw [executeSends, executeSend_eq]
  cases worked : ledger.sendPostings overlay vars send with
  | error fault =>
      constructor
      · rintro ⟨⟩
      · rintro ⟨here, others, ⟨⟩, -⟩
  | ok here =>
      change (ledger.executeSends vars (here.foldl Overlay.post overlay) rest >>= fun later =>
        Except.ok (here ++ later.1, later.2)) = _ ↔ _
      rw [bind_eq_ok]
      constructor
      · rintro ⟨⟨others, final⟩, planned, joined⟩
        obtain ⟨rfl, rfl⟩ := Prod.mk.inj (Except.ok.inj joined)
        exact ⟨here, others, rfl, planned, rfl⟩
      · rintro ⟨first, others, ⟨⟩, planned, rfl⟩
        exact ⟨_, planned, rfl⟩

/-- Every posting of a plan comes from one of its sends. -/
theorem mem_executeSends {overlay last : Overlay} {sends : List Send} {postings : List Posting}
    (planned : ledger.executeSends vars overlay sends = .ok (postings, last)) {posting : Posting}
    (mem : posting ∈ postings) : ∃ send ∈ sends, ∃ layer here,
      ledger.sendPostings layer vars send = .ok here ∧ posting ∈ here := by
  induction sends generalizing overlay postings with
  | nil =>
      obtain ⟨rfl, -⟩ := executeSends_nil.mp planned
      cases mem
  | cons send rest ih =>
      obtain ⟨here, others, worked, later, rfl⟩ := executeSends_cons.mp planned
      rcases List.mem_append.mp mem with first | behind
      · exact ⟨send, List.mem_cons_self, overlay, here, worked, first⟩
      · exact List.exists_mem_cons_of_exists (ih later behind)

end Ledger

end DoubleEntry
