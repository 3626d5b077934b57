import DoubleEntry.Execution.Split
import DoubleEntry.Execution.Waterfall
import DoubleEntry.Script.Send

/-!
# Working out a send

What is drawn from the sources and what the destinations are to get are matched in
order. A draw that is not used up spills into the next allocation, an allocation
that is not filled takes from the next draw.
-/

namespace DoubleEntry

/-- Match draws with allocations. Each posting uses up a draw or fills an allocation. -/
def pair (asset : Text) : List Draw → List Allocation → Except Fault (List Posting)
  | [], _ => .ok []
  | _, [] => .ok []
  | draw :: draws, allocation :: allocations =>
    if draw.amount = 0 then pair asset draws (allocation :: allocations)
    else if allocation.amount = 0 then pair asset (draw :: draws) allocations
    else if (draw.amount : Int) ≤ allocation.amount then do
      let posting ← Posting.make draw.account allocation.account asset draw.amount
      let rest ← pair asset draws
        ({ allocation with amount := allocation.amount - draw.amount } :: allocations)
      return posting :: rest
    else do
      let posting ← Posting.make draw.account allocation.account asset allocation.amount
      let rest ← pair asset
        ({ draw with amount := draw.amount - allocation.amount.toNat } :: draws) allocations
      return posting :: rest
termination_by draws allocations => draws.length + allocations.length

/-- Whether any account has to be found to work a send out. -/
def Send.findsAccounts (send : Send) : Bool :=
  match send.monetary.quantity with
  | .everything => false
  | .exactly total =>
    (0 < total && !send.sources.isEmpty) || !(Destination.live send.destinations).isEmpty

namespace Ledger

/-- Work a send out into postings, and add them to the overlay. -/
def executeSend (ledger : Ledger) (overlay : Overlay) (vars : Variables) (send : Send) :
    Except Fault (List Posting × Overlay) := do
  let asset := send.monetary.asset
  match send.monetary.quantity with
  | .everything => throw (.everythingAsked asset)
  | .exactly total =>
    let draws ← ledger.draw overlay vars asset send.sources total
    let allocations ← Destination.split vars total send.destinations
    let postings ← pair asset draws allocations
    return (postings, postings.foldl Overlay.post overlay)

/-- As `executeSend`, for variables of any kind, which are looked at only if an account has
to be found. -/
def executeSendOfData (ledger : Ledger) (overlay : Overlay) (vars : Data) (send : Send) :
    Except Fault (List Posting × Overlay) := do
  ledger.executeSend overlay (← if send.findsAccounts then Variables.ofData vars else pure []) send

/-- Work out sends in order over one overlay. -/
def executeSends (ledger : Ledger) (vars : Variables) :
    Overlay → List Send → Except Fault (List Posting × Overlay)
  | overlay, [] => .ok ([], overlay)
  | overlay, send :: rest => do
    let (postings, overlay) ← ledger.executeSend overlay vars send
    let (others, overlay) ← executeSends ledger vars overlay rest
    return (postings ++ others, overlay)

end Ledger

end DoubleEntry
