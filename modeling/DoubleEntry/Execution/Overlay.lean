import DoubleEntry.Ledger.Basic
import DoubleEntry.Script.Binding

/-!
# Overlays

While the sends of a script are worked out, nothing is written to the ledger. What
they move is kept in an overlay, so that a later send sees what earlier ones moved.
-/

namespace DoubleEntry

/-- Changes of balances that are not yet written, by full address and asset. -/
abbrev Overlay := Entries (Text × Text) Int

namespace Overlay

/-- The change of a balance. -/
def change (overlay : Overlay) (account asset : Text) : Int :=
  (overlay.get? (Address.normalize account, asset)).getD 0

/-- Put an amount into an account. -/
def credit (overlay : Overlay) (account asset : Text) (amount : Int) : Overlay :=
  overlay.put (Address.normalize account, asset) (overlay.change account asset + amount)

/-- Take an amount from an account. -/
def debit (overlay : Overlay) (account asset : Text) (amount : Int) : Overlay :=
  overlay.credit account asset (-amount)

/-- The balance that an account will have. -/
def effective (overlay : Overlay) (ledger : Ledger) (account asset : Text) : Int :=
  ledger.balance account asset + overlay.change account asset

/-- As `effective`, for an asset of any kind. Only a text names an asset. -/
def effectiveOfData (overlay : Overlay) (ledger : Ledger) (account : Text) (asset : Data) :
    Except Fault Int := do
  match ← asset.asKey with
  | .text asset => return overlay.effective ledger account asset
  | _ => return 0

/-- Make a posting. -/
def post (overlay : Overlay) (posting : Posting) : Overlay :=
  (overlay.debit posting.source posting.asset posting.amount).credit
    posting.destination posting.asset posting.amount

@[simp] theorem change_nil (account asset : Text) : change [] account asset = 0 := rfl

theorem change_credit (overlay : Overlay) (account asset other otherAsset : Text) (amount : Int) :
    (overlay.credit account asset amount).change other otherAsset =
      overlay.change other otherAsset +
        if Address.normalize account = Address.normalize other ∧ asset = otherAsset
        then amount else 0 := by
  unfold credit change
  rw [Entries.get?_put]
  by_cases h : (Address.normalize account, asset) = (Address.normalize other, otherAsset)
  · obtain ⟨ha, hb⟩ := Prod.mk.inj h
    simp [ha, hb]
  · have hne : ¬(Address.normalize account = Address.normalize other ∧ asset = otherAsset) :=
      fun both => h (by rw [both.1, both.2])
    simp [h, hne]

end Overlay

namespace Script

/-- The account that a reference means, in full spelling. What is still a variable
after substitution means none. -/
def resolve (vars : Variables) (reference : Text) : Except Fault Text := do
  let account ← Placeholder.substitute vars reference
  if account.head? = some (.char '$') then throw (.unbound account)
  return Address.normalize account

end Script

end DoubleEntry
