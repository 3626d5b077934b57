import DoubleEntry.Ledger.Basic
import DoubleEntry.Proofs.Entries

/-!
# Writing to a ledger

What can be read from a ledger after an account was mentioned or a balance written, and
which writes can change places. All balances are read through `balances`, the entries
of one account.
-/

namespace DoubleEntry.Ledger

variable (ledger : Ledger)

/-! ## What a write leaves alone -/

/-- Mentioning an account touches nothing but the accounts. -/
theorem openAccount_frame (address : Text) :
    ledger.openAccount address =
      { ledger with accounts := (ledger.openAccount address).accounts } := by
  unfold openAccount
  dsimp only
  split <;> rfl

/-- Changing an account touches nothing but the accounts. -/
theorem updateAccount_frame (address : Text) (change : Account → Account) :
    ledger.updateAccount address change =
      { ledger with accounts := (ledger.updateAccount address change).accounts } := by
  unfold updateAccount
  split <;> rfl

theorem setBalance_frame (address asset : Text) (amount : Int) :
    ledger.setBalance address asset amount =
      { ledger with accounts := (ledger.setBalance address asset amount).accounts } :=
  updateAccount_frame ledger address _

/-! ## Which accounts are there -/

theorem get?_openAccount (address other : Text) :
    (ledger.openAccount address).accounts.get? other =
      if Address.normalize address = other ∧ ledger.accounts.get? other = none
      then some (Account.fresh other ledger.now) else ledger.accounts.get? other := by
  unfold openAccount
  by_cases present : ledger.accounts.hasKey (Address.normalize address) = true
  · simp only [present, if_true]
    split
    · next h =>
        rw [Entries.hasKey, h.1, h.2] at present
        simp at present
    · rfl
  · have absent : ledger.accounts.get? (Address.normalize address) = none := by
      simpa [Entries.hasKey] using present
    simp only [present, Bool.false_eq_true, if_false, Entries.get?_put]
    by_cases h : Address.normalize address = other
    · subst h
      simp [absent]
    · simp [h]

theorem get?_updateAccount (address other : Text) (change : Account → Account) :
    (ledger.updateAccount address change).accounts.get? other =
      if address = other then (ledger.accounts.get? other).map change
      else ledger.accounts.get? other := by
  unfold updateAccount
  cases found : ledger.accounts.get? address with
  | none =>
      by_cases h : address = other
      · subst h
        simp [found]
      · simp [h]
  | some account =>
      by_cases h : address = other
      · subst h
        simp [found]
      · simp [Entries.get?_put, h]

theorem hasKey_openAccount (address other : Text) :
    (ledger.openAccount address).accounts.hasKey other = true ↔
      Address.normalize address = other ∨ ledger.accounts.hasKey other = true := by
  rw [Entries.hasKey, get?_openAccount, Entries.hasKey]
  by_cases h : Address.normalize address = other
  · cases found : ledger.accounts.get? other <;> simp [h]
  · simp [h]

@[simp] theorem hasKey_updateAccount (address other : Text) (change : Account → Account) :
    (ledger.updateAccount address change).accounts.hasKey other =
      ledger.accounts.hasKey other := by
  rw [Entries.hasKey, get?_updateAccount, Entries.hasKey]
  split <;> simp

@[simp] theorem hasKey_setBalance (address asset other : Text) (amount : Int) :
    (ledger.setBalance address asset amount).accounts.hasKey other =
      ledger.accounts.hasKey other :=
  hasKey_updateAccount ledger address other _

/-! ## Which balances are there -/

theorem balances_eq (address : Text) :
    ledger.balances address =
      ((ledger.accounts.get? (Address.normalize address)).map Account.balances).getD [] := by
  unfold balances account?
  cases ledger.accounts.get? (Address.normalize address) <;> rfl

theorem balance_eq (address asset : Text) :
    ledger.balance address asset = ((ledger.balances address).get? asset).getD 0 := by
  unfold balance balances
  cases ledger.account? address <;> rfl

/-- A balance does not depend on the spelling of the address. -/
@[simp] theorem balance_normalize (address asset : Text) :
    ledger.balance (Address.normalize address) asset = ledger.balance address asset := by
  simp only [balance, account?, Address.normalize_normalize]

@[simp] theorem balances_openAccount (address other : Text) :
    (ledger.openAccount address).balances other = ledger.balances other := by
  rw [balances_eq, balances_eq, get?_openAccount]
  split
  · next h => simp [h.2, Account.fresh]
  · rfl

@[simp] theorem balance_openAccount (address other asset : Text) :
    (ledger.openAccount address).balance other asset = ledger.balance other asset := by
  simp only [balance_eq, balances_openAccount]

/-- A change that is not about balances changes none. -/
theorem balances_updateAccount {change : Account → Account}
    (keeps : ∀ account, (change account).balances = account.balances) (address other : Text) :
    (ledger.updateAccount address change).balances other = ledger.balances other := by
  rw [balances_eq, balances_eq, get?_updateAccount]
  split
  · rw [Option.map_map]
    exact congrArg (fun f => (Option.map f _).getD []) (funext keeps)
  · rfl

@[simp] theorem balances_annotate (address other : Text) (key value : Data) :
    (ledger.annotate address key value).balances other = ledger.balances other := by
  unfold annotate
  dsimp only
  rw [balances_updateAccount, balances_openAccount]
  exact fun _ => rfl

/-- Only the account that is written to, under its full address, gets another entry. -/
theorem balances_setBalance {address : Text} (present : ledger.accounts.hasKey address = true)
    (asset other : Text) (amount : Int) :
    (ledger.setBalance address asset amount).balances other =
      if address = Address.normalize other then (ledger.balances other).put asset amount
      else ledger.balances other := by
  obtain ⟨account, found⟩ := (Entries.hasKey_iff _ _).mp present
  rw [balances_eq, balances_eq, setBalance, get?_updateAccount]
  by_cases h : address = Address.normalize other
  · rw [← h, found]
    simp
  · simp [h]

theorem balance_setBalance {address : Text} (present : ledger.accounts.hasKey address = true)
    (asset other otherAsset : Text) (amount : Int) :
    (ledger.setBalance address asset amount).balance other otherAsset =
      if address = Address.normalize other ∧ asset = otherAsset then amount
      else ledger.balance other otherAsset := by
  rw [balance_eq, balance_eq, balances_setBalance ledger present]
  by_cases ha : address = Address.normalize other
  · by_cases hs : asset = otherAsset <;> simp [ha, hs, Entries.get?_put]
  · simp [ha]

/-! ## Which writes can change places -/

theorem updateAccount_of_none {address : Text} (absent : ledger.accounts.get? address = none)
    (change : Account → Account) : ledger.updateAccount address change = ledger := by
  simp [updateAccount, absent]

theorem updateAccount_of_some {address : Text} {account : Account}
    (found : ledger.accounts.get? address = some account) (change : Account → Account) :
    ledger.updateAccount address change =
      { ledger with accounts := ledger.accounts.put address (change account) } := by
  simp [updateAccount, found]

theorem updateAccount_updateAccount (address : Text) (first second : Account → Account) :
    (ledger.updateAccount address first).updateAccount address second =
      ledger.updateAccount address fun account => second (first account) := by
  cases found : ledger.accounts.get? address with
  | none => simp only [updateAccount_of_none _ found]
  | some account => simp [updateAccount, found, Entries.put_put_self]

theorem updateAccount_comm {address other : Text} (hne : address ≠ other)
    (change otherChange : Account → Account) :
    (ledger.updateAccount other otherChange).updateAccount address change =
      (ledger.updateAccount address change).updateAccount other otherChange := by
  have hget : (ledger.updateAccount other otherChange).accounts.get? address =
      ledger.accounts.get? address := by
    rw [get?_updateAccount, if_neg (Ne.symm hne)]
  have hother : (ledger.updateAccount address change).accounts.get? other =
      ledger.accounts.get? other := by
    rw [get?_updateAccount, if_neg hne]
  cases ha : ledger.accounts.get? address with
  | none => rw [updateAccount_of_none _ (hget.trans ha), updateAccount_of_none _ ha]
  | some account =>
      cases ho : ledger.accounts.get? other with
      | none => rw [updateAccount_of_none _ ho, updateAccount_of_none _ (hother.trans ho)]
      | some otherAccount =>
          have present : ledger.accounts.hasKey address = true :=
            (Entries.hasKey_iff _ _).mpr ⟨account, ha⟩
          rw [updateAccount_of_some _ (hget.trans ha), updateAccount_of_some _ (hother.trans ho),
            updateAccount_of_some _ ha, updateAccount_of_some _ ho]
          simp only [Entries.put_comm present hne]

/-- Whether an account has an entry for an asset, be it zero. -/
def hasEntry (address asset : Text) : Prop := (ledger.balances address).hasKey asset = true

theorem setBalance_setBalance (address asset : Text) (first second : Int) :
    (ledger.setBalance address asset first).setBalance address asset second =
      ledger.setBalance address asset second := by
  unfold setBalance
  rw [updateAccount_updateAccount]
  simp only [Entries.put_put_self]

/-- Writing over an entry can change places with a write elsewhere: neither the order of
accounts nor that of entries depends on it. -/
theorem setBalance_comm {address asset other otherAsset : Text}
    (full : Address.normalize address = address) (h : ledger.hasEntry address asset)
    (hne : (address, asset) ≠ (other, otherAsset)) (amount otherAmount : Int) :
    (ledger.setBalance other otherAsset otherAmount).setBalance address asset amount =
      (ledger.setBalance address asset amount).setBalance other otherAsset otherAmount := by
  by_cases ha : address = other
  · subst ha
    have hs : asset ≠ otherAsset := fun heq => hne (by rw [heq])
    unfold hasEntry at h
    rw [balances_eq, full] at h
    cases found : ledger.accounts.get? address with
    | none => simp [found, Entries.hasKey] at h
    | some account =>
        have present : account.balances.hasKey asset = true := by simpa [found] using h
        unfold setBalance
        rw [updateAccount_updateAccount, updateAccount_updateAccount,
          updateAccount_of_some _ found, updateAccount_of_some _ found]
        simp only [Entries.put_comm present hs]
  · exact updateAccount_comm ledger ha _ _

/-- A write to an account that is there can change places with the mention of any
account. -/
theorem openAccount_setBalance {address : Text} (present : ledger.accounts.hasKey address = true)
    (asset other : Text) (amount : Int) :
    (ledger.setBalance address asset amount).openAccount other =
      (ledger.openAccount other).setBalance address asset amount := by
  obtain ⟨account, found⟩ := (Entries.hasKey_iff _ _).mp present
  by_cases there : ledger.accounts.hasKey (Address.normalize other) = true
  · simp [openAccount, there]
  · have hne : address ≠ Address.normalize other := fun heq => there (heq ▸ present)
    have kept : (ledger.accounts.put (Address.normalize other)
        (Account.fresh (Address.normalize other) ledger.now)).get? address = some account := by
      rw [Entries.get?_put, if_neg (Ne.symm hne), found]
    simp only [openAccount, hasKey_setBalance, there, Bool.false_eq_true, if_false]
    unfold setBalance
    rw [updateAccount_of_some _ found, updateAccount_of_some _ kept,
      Entries.put_comm present hne]
    rfl

end DoubleEntry.Ledger
