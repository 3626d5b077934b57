import DoubleEntry.Ledger.Commit
import DoubleEntry.Proofs.Ledger.Writes

/-!
# Transfers

A transfer makes one posting at once: both accounts are mentioned, the source gives the
amount, the destination gets it. A posting whose source is its destination gives and
gets in turn.
-/

namespace DoubleEntry

namespace Posting

/-- Whether both addresses of a posting are in full spelling. -/
def isFull (posting : Posting) : Prop := posting.normalize = posting

theorem isFull_normalize (posting : Posting) : posting.normalize.isFull := by
  simp [isFull, normalize]

theorem isFull.source {posting : Posting} (full : posting.isFull) :
    Address.normalize posting.source = posting.source :=
  congrArg Posting.source full

theorem isFull.destination {posting : Posting} (full : posting.isFull) :
    Address.normalize posting.destination = posting.destination :=
  congrArg Posting.destination full

end Posting

namespace Ledger

/-- Add an amount, which can be negative, to a balance. -/
def adjust (ledger : Ledger) (address asset : Text) (amount : Int) : Ledger :=
  ledger.setBalance address asset (ledger.balance address asset + amount)

/-- Make one posting. -/
def transfer (ledger : Ledger) (posting : Posting) : Ledger :=
  ((ledger.openEnds posting).adjust posting.source posting.asset (-posting.amount)).adjust
    posting.destination posting.asset posting.amount

/-- Make postings in order. -/
def transferAll (ledger : Ledger) (postings : List Posting) : Ledger :=
  postings.foldl transfer ledger

variable (ledger : Ledger)

@[simp] theorem transferAll_nil : ledger.transferAll [] = ledger := rfl

@[simp] theorem transferAll_cons (posting : Posting) (rest : List Posting) :
    ledger.transferAll (posting :: rest) = (ledger.transfer posting).transferAll rest := rfl

/-! ## What a transfer leaves alone -/

theorem openEnds_frame (posting : Posting) :
    ledger.openEnds posting = { ledger with accounts := (ledger.openEnds posting).accounts } := by
  unfold openEnds
  rw [openAccount_frame (ledger.openAccount posting.source), openAccount_frame ledger]

theorem adjust_frame (address asset : Text) (amount : Int) :
    ledger.adjust address asset amount =
      { ledger with accounts := (ledger.adjust address asset amount).accounts } :=
  setBalance_frame ledger address asset _

/-- A transfer touches nothing but the accounts. -/
theorem transfer_frame (posting : Posting) :
    ledger.transfer posting = { ledger with accounts := (ledger.transfer posting).accounts } := by
  unfold transfer
  rw [adjust_frame (adjust _ _ _ _), adjust_frame (openEnds _ _), openEnds_frame]

theorem transferAll_frame (postings : List Posting) :
    ledger.transferAll postings =
      { ledger with accounts := (ledger.transferAll postings).accounts } := by
  induction postings generalizing ledger with
  | nil => rfl
  | cons posting rest ih =>
      rw [transferAll_cons, ih, transfer_frame]

/-- What the mention of accounts and the writing of balances keep, transfers keep. -/
theorem transferAll_keeps {P : Ledger → Prop}
    (opened : ∀ {ledger : Ledger} (address : Text), P ledger → P (ledger.openAccount address))
    (written : ∀ {ledger : Ledger} (address asset : Text) (amount : Int),
      P ledger → P (ledger.setBalance address asset amount))
    {ledger : Ledger} (h : P ledger) (postings : List Posting) : P (ledger.transferAll postings) := by
  induction postings generalizing ledger with
  | nil => exact h
  | cons posting rest ih =>
      apply ih
      apply written
      apply written
      apply opened
      exact opened _ h

/-! ## What an adjustment does -/

section Adjust

variable {address : Text} (present : ledger.accounts.hasKey address = true)
include present

theorem balance_adjust (full : Address.normalize address = address)
    (asset other otherAsset : Text) (amount : Int) :
    (ledger.adjust address asset amount).balance other otherAsset =
      ledger.balance other otherAsset +
        if address = Address.normalize other ∧ asset = otherAsset then amount else 0 := by
  rw [adjust, balance_setBalance ledger present]
  split
  · next h =>
      have same : ledger.balances address = ledger.balances other := by
        rw [balances_eq, balances_eq, full, h.1]
      rw [balance_eq, balance_eq, same, h.2]
  · exact (Int.add_zero _).symm

theorem hasEntry_adjust (asset other otherAsset : Text) (amount : Int) :
    (ledger.adjust address asset amount).hasEntry other otherAsset ↔
      address = Address.normalize other ∧ asset = otherAsset ∨
        ledger.hasEntry other otherAsset := by
  unfold hasEntry adjust
  rw [balances_setBalance ledger present]
  by_cases h : address = Address.normalize other
  · simp [h, Entries.hasKey_put]
  · simp [h]

end Adjust

@[simp] theorem hasKey_adjust (address asset other : Text) (amount : Int) :
    (ledger.adjust address asset amount).accounts.hasKey other =
      ledger.accounts.hasKey other :=
  hasKey_setBalance ledger address asset other _

/-! ## What a transfer does -/

theorem hasKey_openEnds (posting : Posting) (other : Text) :
    (ledger.openEnds posting).accounts.hasKey other = true ↔
      Address.normalize posting.destination = other ∨
        Address.normalize posting.source = other ∨ ledger.accounts.hasKey other = true := by
  unfold openEnds
  rw [hasKey_openAccount, hasKey_openAccount]

@[simp] theorem balances_openEnds (posting : Posting) (other : Text) :
    (ledger.openEnds posting).balances other = ledger.balances other := by
  simp [openEnds]

@[simp] theorem balance_openEnds (posting : Posting) (other asset : Text) :
    (ledger.openEnds posting).balance other asset = ledger.balance other asset := by
  simp [openEnds]

section Full

variable {posting : Posting} (full : posting.isFull)
include full

theorem hasKey_source : (ledger.openEnds posting).accounts.hasKey posting.source = true :=
  (hasKey_openEnds ledger posting _).mpr (Or.inr (Or.inl full.source))

theorem hasKey_destination :
    (ledger.openEnds posting).accounts.hasKey posting.destination = true :=
  (hasKey_openEnds ledger posting _).mpr (Or.inl full.destination)

/-- A transfer takes the amount from the source and gives it to the destination. -/
theorem balance_transfer (other asset : Text) :
    (ledger.transfer posting).balance other asset =
      ledger.balance other asset +
        (if posting.destination = Address.normalize other ∧ posting.asset = asset
          then (posting.amount : Int) else 0) -
        (if posting.source = Address.normalize other ∧ posting.asset = asset
          then (posting.amount : Int) else 0) := by
  have hd : ((ledger.openEnds posting).adjust posting.source posting.asset
      (-posting.amount)).accounts.hasKey posting.destination = true := by
    rw [hasKey_adjust]
    exact hasKey_destination ledger full
  rw [transfer, balance_adjust _ hd full.destination,
    balance_adjust _ (hasKey_source ledger full) full.source, balance_openEnds]
  split <;> split <;> omega

/-- A transfer leaves both of its accounts with an entry for its asset. -/
theorem hasEntry_transfer (other asset : Text) :
    (ledger.transfer posting).hasEntry other asset ↔
      posting.asset = asset ∧ (posting.source = Address.normalize other ∨
        posting.destination = Address.normalize other) ∨ ledger.hasEntry other asset := by
  have hd : ((ledger.openEnds posting).adjust posting.source posting.asset
      (-posting.amount)).accounts.hasKey posting.destination = true := by
    rw [hasKey_adjust]
    exact hasKey_destination ledger full
  rw [transfer, hasEntry_adjust _ hd, hasEntry_adjust _ (hasKey_source ledger full)]
  unfold hasEntry
  rw [balances_openEnds]
  constructor
  · rintro (⟨h, ha⟩ | ⟨h, ha⟩ | h)
    · exact Or.inl ⟨ha, Or.inr h⟩
    · exact Or.inl ⟨ha, Or.inl h⟩
    · exact Or.inr h
  · rintro (⟨ha, h | h⟩ | h)
    · exact Or.inr (Or.inl ⟨h, ha⟩)
    · exact Or.inl ⟨h, ha⟩
    · exact Or.inr (Or.inr h)

end Full

end Ledger

end DoubleEntry
