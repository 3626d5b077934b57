import DoubleEntry.Proofs.Execution.Acceptance
import DoubleEntry.Proofs.Execution.Split
import DoubleEntry.Proofs.Ledger.Explained
import Mathlib.Algebra.Order.BigOperators.Group.List
import Mathlib.Algebra.Order.Group.Nat

/-!
# What a send pays

The draws of a send are paid out to its allocations in order. Every account gives what is
drawn from it, and what an account gets depends on the draws only through their sum.
-/

namespace DoubleEntry

/-! ## Postings that can be made -/

namespace Posting

theorem nonblank_ok {missing : Fault} {t : Text} (solid : t.all isBlank = false) :
    nonblank missing (.text t) = .ok t := by
  cases t with
  | nil => cases solid
  | cons c rest =>
      change (if (c :: rest).all isBlank then Except.error missing else .ok (c :: rest)) = _
      rw [solid]
      rfl

theorem solid_of_full {account : Text} (full : Address.normalize account = account) :
    account.all isBlank = false := by
  obtain ⟨rest, spelled⟩ := Address.normalize_eq_cons account
  have sigil : isBlank '@' = false := by decide
  rw [← full, spelled, List.all_cons, sigil, Bool.false_and]

theorem make_ok {source destination asset : Text} (from_ : Address.normalize source = source)
    (to_ : Address.normalize destination = destination) (solid : asset.all isBlank = false)
    (amount : Nat) : make source destination asset amount = .ok ⟨source, destination, asset, amount⟩ := by
  unfold make ofData
  rw [nonblank_ok (solid_of_full from_), nonblank_ok (solid_of_full to_), nonblank_ok solid]
  rfl

end Posting

/-! ## Draws and allocations -/

namespace Draw

/-- What is drawn altogether. -/
def total (draws : List Draw) : Nat := (draws.map amount).sum

theorem total_cons (draw : Draw) (rest : List Draw) :
    total (draw :: rest) = draw.amount + total rest := by
  rw [total, List.map_cons, List.sum_cons]
  rfl

theorem amount_le_total {draw : Draw} {draws : List Draw} (mem : draw ∈ draws) :
    draw.amount ≤ total draws :=
  List.le_sum_of_mem (List.mem_map_of_mem mem)

theorem taken_le_total (account : Text) (draws : List Draw) : taken account draws ≤ total draws := by
  induction draws with
  | nil => exact Nat.le_refl 0
  | cons draw rest ih =>
      rw [taken_cons, total_cons]
      split <;> omega

end Draw

namespace Allocation

/-- What an account gets of an amount that is handed out in order while it lasts. -/
def received (account : Text) : Int → List Allocation → Int
  | _, [] => 0
  | amount, allocation :: rest =>
    (if allocation.account = account then min amount allocation.amount else 0) +
      received account (amount - min amount allocation.amount) rest

/-- The more is handed out, the more an account gets. -/
theorem received_mono (account : Text) {amount more : Int} (le : amount ≤ more)
    (allocations : List Allocation) :
    received account amount allocations ≤ received account more allocations := by
  induction allocations generalizing amount more with
  | nil => exact Int.le_refl 0
  | cons allocation rest ih =>
      have here : min amount allocation.amount ≤ min more allocation.amount := by omega
      have later : amount - min amount allocation.amount ≤ more - min more allocation.amount := by
        omega
      have behind := ih later
      rw [received, received]
      split <;> omega

theorem received_zero (account : Text) {allocations : List Allocation}
    (nonneg : ∀ allocation ∈ allocations, 0 ≤ allocation.amount) :
    received account 0 allocations = 0 := by
  induction allocations with
  | nil => rfl
  | cons allocation rest ih =>
      obtain ⟨here, later⟩ := List.forall_mem_cons.mp nonneg
      have none : min 0 allocation.amount = 0 := by omega
      rw [received, none, Int.sub_zero, ih later, ite_self, Int.add_zero]

/-- A part of what the first account takes can be handed out beforehand. -/
theorem received_part (account : Text) (part amount : Int) (allocation : Allocation)
    (rest : List Allocation) :
    received account (part + amount) (allocation :: rest) =
      (if allocation.account = account then part else 0) +
        received account amount ({ allocation with amount := allocation.amount - part } :: rest) := by
  have taken : min (part + amount) allocation.amount =
      part + min amount (allocation.amount - part) := by omega
  have left : part + amount - (part + min amount (allocation.amount - part)) =
      amount - min amount (allocation.amount - part) := by omega
  rw [received, received, taken, left]
  dsimp only
  split <;> omega

/-- The first account can be served as a whole beforehand. -/
theorem received_whole (account : Text) {amount : Int} (more : 0 ≤ amount) (allocation : Allocation)
    (rest : List Allocation) :
    received account (allocation.amount + amount) (allocation :: rest) =
      (if allocation.account = account then allocation.amount else 0) +
        received account amount rest := by
  have taken : min (allocation.amount + amount) allocation.amount = allocation.amount := by omega
  have left : allocation.amount + amount - allocation.amount = amount := by omega
  rw [received, taken, left]

end Allocation

/-! ## Draws that are paid out -/

/-- Whether postings pay draws of an asset out to allocations. -/
structure Pays (asset : Text) (draws : List Draw) (allocations : List Allocation)
    (postings : List Posting) : Prop where
  full : ∀ posting ∈ postings, posting.isFull
  unit : ∀ posting ∈ postings, posting.asset = asset
  debited : ∀ account, Posting.debited postings account asset = Draw.taken account draws
  credited : ∀ account, Posting.credited postings account asset =
    Allocation.received account (Draw.total draws) allocations

namespace Pays

variable {asset : Text} {draws given : List Draw} {allocations shares : List Allocation}
  {postings : List Posting}

theorem nil (none : Draw.total draws = 0)
    (nonneg : ∀ allocation ∈ allocations, 0 ≤ allocation.amount) :
    Pays asset draws allocations [] where
  full := nofun
  unit := nofun
  debited := by
    intro account
    have least := Draw.taken_le_total account draws
    rw [Posting.debited, Posting.moved_nil]
    omega
  credited := by
    intro account
    rw [none, Posting.credited, Posting.moved_nil]
    exact (Allocation.received_zero account nonneg).symm

theorem cons {posting : Posting} (full : posting.isFull) (unit : posting.asset = asset)
    (later : Pays asset draws allocations postings)
    (taken : ∀ account, Draw.taken account given =
      (if posting.source = account then posting.amount else 0) + Draw.taken account draws)
    (received : ∀ account, Allocation.received account (Draw.total given) shares =
      (if posting.destination = account then (posting.amount : Int) else 0) +
        Allocation.received account (Draw.total draws) allocations) :
    Pays asset given shares (posting :: postings) where
  full := List.forall_mem_cons.mpr ⟨full, later.full⟩
  unit := List.forall_mem_cons.mpr ⟨unit, later.unit⟩
  debited := by
    intro account
    have behind := later.debited account
    rw [Posting.debited] at behind ⊢
    rw [Posting.moved_cons, behind, taken, Nat.cast_add, Nat.cast_ite]
    simp [unit]
  credited := by
    intro account
    have behind := later.credited account
    rw [Posting.credited] at behind ⊢
    rw [Posting.moved_cons, behind, received]
    simp [unit]

end Pays

/-- Nothing is paid out where nobody is to get anything. -/
theorem pair_nil (asset : Text) (draws : List Draw) : pair asset draws [] = .ok [] := by
  cases draws <;> rw [pair]
  exact List.cons_ne_nil _ _

/-- Draws are paid out to allocations that take all of them. -/
theorem exists_pair {asset : Text} {draws : List Draw} {allocations : List Allocation}
    (solid : asset.all isBlank = false)
    (drawers : ∀ draw ∈ draws, Address.normalize draw.account = draw.account)
    (takers : ∀ allocation ∈ allocations, Address.normalize allocation.account = allocation.account)
    (nonneg : ∀ allocation ∈ allocations, 0 ≤ allocation.amount)
    (covered : Draw.total draws ≤ Allocation.total allocations) :
    ∃ postings, pair asset draws allocations = .ok postings ∧ Pays asset draws allocations postings := by
  induction draws, allocations using pair.induct with
  | case1 allocations =>
      rw [pair]
      exact ⟨[], rfl, .nil rfl nonneg⟩
  | case2 draws nonempty =>
      have none : Draw.total draws = 0 := by
        change (Draw.total draws : Int) ≤ 0 at covered
        omega
      refine ⟨[], ?_, .nil none nonneg⟩
      rw [pair]
      exact nonempty
  | case3 draw draws allocation allocations used ih =>
      rw [Draw.total_cons, used, Nat.zero_add] at covered
      obtain ⟨postings, paired, pays⟩ := ih (List.forall_mem_cons.mp drawers).2 takers nonneg covered
      refine ⟨postings, by rw [pair, if_pos used, paired], pays.full, pays.unit, ?_, ?_⟩
      · intro account
        rw [pays.debited, Draw.taken_cons, used, ite_self, Nat.zero_add]
      · intro account
        rw [pays.credited, Draw.total_cons, used, Nat.zero_add]
  | case4 draw draws allocation allocations unused filled ih =>
      rw [Allocation.total_cons, filled, Int.zero_add] at covered
      obtain ⟨postings, paired, pays⟩ := ih drawers (List.forall_mem_cons.mp takers).2
        (List.forall_mem_cons.mp nonneg).2 covered
      refine ⟨postings, by rw [pair, if_neg unused, if_pos filled, paired], pays.full, pays.unit,
        pays.debited, ?_⟩
      intro account
      have none : min (Draw.total (draw :: draws) : Int) 0 = 0 := by omega
      rw [pays.credited, Allocation.received, filled, none, Int.sub_zero, ite_self, Int.zero_add]
  | case5 draw draws allocation allocations unused unfilled fits ih =>
      obtain ⟨drawer, drawers⟩ := List.forall_mem_cons.mp drawers
      obtain ⟨taker, takers⟩ := List.forall_mem_cons.mp takers
      obtain ⟨some_, nonneg⟩ := List.forall_mem_cons.mp nonneg
      rw [Draw.total_cons, Allocation.total_cons] at covered
      obtain ⟨postings, paired, pays⟩ := ih drawers (List.forall_mem_cons.mpr ⟨taker, takers⟩)
        (List.forall_mem_cons.mpr ⟨Int.sub_nonneg.mpr fits, nonneg⟩)
        (by rw [Allocation.total_cons]; dsimp only; omega)
      refine ⟨⟨draw.account, allocation.account, asset, draw.amount⟩ :: postings, ?_,
        pays.cons ?_ rfl ?_ ?_⟩
      · rw [pair, if_neg unused, if_neg unfilled, if_pos fits, Posting.make_ok drawer taker solid,
          paired]
        rfl
      · rw [Posting.isFull, Posting.normalize, drawer, taker]
      · intro account
        exact Draw.taken_cons account draw draws
      · intro account
        rw [Draw.total_cons, Nat.cast_add]
        exact Allocation.received_part account draw.amount (Draw.total draws) allocation allocations
  | case6 draw draws allocation allocations unused unfilled exceeds ih =>
      obtain ⟨drawer, drawers⟩ := List.forall_mem_cons.mp drawers
      obtain ⟨taker, takers⟩ := List.forall_mem_cons.mp takers
      obtain ⟨some_, nonneg⟩ := List.forall_mem_cons.mp nonneg
      obtain ⟨part, spelled⟩ := Int.eq_ofNat_of_zero_le some_
      rw [Draw.total_cons, Allocation.total_cons] at covered
      obtain ⟨postings, paired, pays⟩ := ih (List.forall_mem_cons.mpr ⟨drawer, drawers⟩) takers nonneg
        (by rw [Draw.total_cons]; dsimp only; omega)
      refine ⟨⟨draw.account, allocation.account, asset, part⟩ :: postings, ?_, pays.cons ?_ rfl ?_ ?_⟩
      · rw [pair, if_neg unused, if_neg unfilled, if_neg exceeds, paired, spelled,
          Posting.make_ok drawer taker solid]
        rfl
      · rw [Posting.isFull, Posting.normalize, drawer, taker]
      · intro account
        rw [Draw.taken_cons, Draw.taken_cons]
        dsimp only
        split <;> omega
      · intro account
        have left : (Draw.total (draw :: draws) : Int) = allocation.amount +
            Draw.total ({ draw with amount := draw.amount - allocation.amount.toNat } :: draws) := by
          rw [Draw.total_cons, Draw.total_cons]
          dsimp only
          omega
        rw [left, Allocation.received_whole account (Int.natCast_nonneg _), spelled]

end DoubleEntry
