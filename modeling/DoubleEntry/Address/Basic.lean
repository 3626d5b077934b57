import DoubleEntry.Text.Basic

/-!
# Account addresses

An address is a row of segments with colons between them. Its full spelling has
the sigil `@` in front; a spelling without it means the same account.
-/

namespace DoubleEntry

namespace Address

/-- The address of the outside world, where value comes from and goes to. -/
def world : Text := "@world"

/-- The full spelling of an address. -/
def normalize : Text → Text
  | .char '@' :: rest => '@' :: rest
  | address => '@' :: address

/-- An address without its sigil. Only one sigil is taken off. -/
def bare : Text → Text
  | .char '@' :: rest => rest
  | address => address

theorem normalize_eq_cons (address : Text) : ∃ rest, normalize address = .char '@' :: rest := by
  unfold normalize
  split <;> exact ⟨_, rfl⟩

@[simp] theorem normalize_normalize (address : Text) :
    normalize (normalize address) = normalize address := by
  obtain ⟨rest, h⟩ := normalize_eq_cons address
  rw [h]
  rfl

@[simp] theorem normalize_sigil (rest : Text) :
    normalize (.char '@' :: rest) = .char '@' :: rest := rfl

@[simp] theorem bare_sigil (rest : Text) : bare (.char '@' :: rest) = rest := rfl

@[simp] theorem normalize_world : normalize world = world := by decide

end Address

end DoubleEntry
