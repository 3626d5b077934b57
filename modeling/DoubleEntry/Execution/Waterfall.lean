import DoubleEntry.Execution.Overlay
import DoubleEntry.Script.Source

/-!
# The waterfall of sources

An amount is drawn from the sources in the order in which they stand. A source with
a cap gives no more than that. A source that may not go below zero gives no more
than it holds; the others give whatever is still needed.
-/

namespace DoubleEntry

/-- What is drawn from one account. -/
structure Draw where
  account : Text
  amount : Nat
  mayOverdraw : Bool
  deriving DecidableEq

namespace Source

/-- The most that a cap lets through of what is needed. A cap that asks for everything
lets nothing through. -/
def capped (cap : Option Monetary) (needed : Nat) : Nat :=
  match cap with
  | none => needed
  | some literal => match literal.quantity with
    | .exactly amount => min needed amount
    | .everything => 0

/-- What a source gives of what is needed, given what it holds. -/
def gives (source : Source) (mayOverdraw : Bool) (available : Int) (needed : Nat) : Nat :=
  let most := capped source.cap needed
  if mayOverdraw then most else min most available.toNat

theorem gives_le (source : Source) (mayOverdraw : Bool) (available : Int) (needed : Nat) :
    source.gives mayOverdraw available needed ≤ needed := by
  have hc : capped source.cap needed ≤ needed := by
    unfold capped
    split
    · exact Nat.le_refl _
    · split
      · exact Nat.min_le_left _ _
      · exact Nat.zero_le _
  unfold gives
  split
  · exact hc
  · exact Nat.le_trans (Nat.min_le_left _ _) hc

end Source

namespace Ledger

variable (ledger : Ledger) (overlay : Overlay) (vars : Variables) (asset : Text)

/-- Draw from sources in order until nothing is needed; the second result is what is
still needed at the end. -/
def drawFrom : Nat → List Source → Except Fault (List Draw × Nat)
  | needed, [] => .ok ([], needed)
  | 0, _ :: _ => .ok ([], 0)
  | needed, source :: rest => do
    let account ← Script.resolve vars source.account
    let mayOverdraw := source.overdraft.isGranted || account = Address.world
    let amount := source.gives mayOverdraw (overlay.effective ledger account asset) needed
    let (draws, left) ← drawFrom (needed - amount) rest
    return (if amount = 0 then draws else { account, amount, mayOverdraw } :: draws, left)

/-- Whether a source stands for a shortfall: the outside world, and whoever has an
overdraft without bounds. -/
def coversShortfall (source : Source) : Bool :=
  source.overdraft.isUnbounded || match Script.resolve vars source.account with
    | .ok account => account = Address.world
    | .error _ => false

/-- Draw an amount from sources. It is refused if something is still needed at the end
and no source stands for it. -/
def draw (sources : List Source) (needed : Nat) : Except Fault (List Draw) := do
  let (draws, left) ← ledger.drawFrom overlay vars asset needed sources
  if 0 < left && !sources.any (coversShortfall vars) then
    throw (.shortfall (.text asset) left)
  return draws

/-- As `draw`, for variables and an asset of any kind, which are looked at only if there
is something to draw. Only a text names an asset; whatever else is asked for, no account
holds any, and what is no key cannot even be looked up. -/
def drawOfData (vars asset : Data) (sources : List Source) (needed : Nat) :
    Except Fault (List Draw) := do
  let consulted := if needed = 0 then [] else sources
  let vars ← if consulted.isEmpty then pure [] else Variables.ofData vars
  if let .text asset := asset then return ← ledger.draw overlay vars asset sources needed
  if let source :: _ := consulted then
    let _ ← Script.resolve vars source.account
    let _ ← asset.asKey
  let (draws, left) ← { ledger with accounts := [] }.drawFrom [] vars asset.shown needed sources
  if 0 < left && !sources.any (coversShortfall vars) then throw (.shortfall asset left)
  return draws

end Ledger

end DoubleEntry
