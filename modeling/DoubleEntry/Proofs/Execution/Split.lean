import DoubleEntry.Execution.Split
import DoubleEntry.Proofs.Except
import DoubleEntry.Proofs.Script.Placeholder
import DoubleEntry.Proofs.Script.Spelling
import Mathlib.Algebra.BigOperators.Group.List.Basic
import Mathlib.Algebra.Order.Ring.Int

/-!
# What destinations get

Portions that are written as they should be are not negative. An amount that is split
with such portions is handed out as a whole, unless there is nobody to take it.
-/

namespace DoubleEntry

theorem splitSign_unsigned {t : Text} (h : (.char '-' : CodePoint) ∉ t) :
    (splitSign t).1 = false := by
  unfold splitSign
  split
  · exact absurd List.mem_cons_self h
  · rfl
  · rfl

/-! ## Portions -/

theorem Script.IsPortion.unsigned {portion : Text} (h : Script.IsPortion portion) :
    (.char '-' : CodePoint) ∉ portion := by
  have digit : isDecimalDigit '-' = false := by decide +kernel
  have digits {row : Text} (all : ∀ c ∈ row, isDecimalDigit c = true) :
      (.char '-' : CodePoint) ∉ row := by
    intro mem
    rw [all _ mem] at digit
    cases digit
  cases h with
  | @percentage number nonempty all =>
      intro mem
      rcases List.mem_append.mp mem with inside | mark
      · rcases all _ inside with number | point
        · rw [digit] at number
          cases number
        · cases point
      · cases List.mem_singleton.mp mark
  | fraction above numerator below denominator =>
      intro mem
      rcases List.mem_append.mp mem with front | back
      · rcases List.mem_append.mp front with number | slash
        · exact digits numerator number
        · cases List.mem_singleton.mp slash
      · exact digits denominator back
  | remaining => decide

theorem Ratio.numerator_nonneg {t : Text} {ratio : Ratio} (unsigned : (.char '-' : CodePoint) ∉ t)
    (h : Ratio.ofText? t = some ratio) : 0 ≤ ratio.numerator := by
  have positive : (splitSign t.strip).1 = false :=
    splitSign_unsigned fun mem => unsigned ((Text.strip_infix t).subset mem)
  obtain ⟨⟨n, d⟩, -, made⟩ := Option.bind_eq_some_iff.mp h
  change Ratio.make? (if (splitSign t.strip).1 = true then -(n : Int) else n) d = some ratio at made
  unfold Ratio.make? at made
  split at made
  · obtain rfl := Option.some.inj made
    dsimp only
    rw [positive]
    exact Int.natCast_nonneg n
  · cases made

namespace Portion

theorem share_nonneg {portion : Text} {ratio : Ratio} (unsigned : (.char '-' : CodePoint) ∉ portion)
    (h : share portion = .ok (some ratio)) : 0 ≤ ratio.numerator := by
  unfold share at h
  by_cases remaining : portion = Script.remainingWord
  · rw [if_pos remaining] at h
    cases h
  rw [if_neg remaining] at h
  by_cases marked : portion.getLast? = some (.char '%')
  · rw [if_pos marked] at h
    split at h
    · next read found =>
        have above : 0 ≤ read.numerator := Ratio.numerator_nonneg
          (fun mem => unsigned ((List.dropLast_sublist portion).mem mem)) found
        rw [← Option.some.inj (Except.ok.inj h)]
        exact above
    · cases h
  rw [if_neg marked] at h
  by_cases divided : portion.contains '/' = true
  · rw [if_pos divided] at h
    split at h
    · next found =>
        cases h
        exact Ratio.numerator_nonneg unsigned found
    · cases h
  · rw [if_neg divided] at h
    cases h

/-- A portion of what is not negative is not negative. -/
theorem amountOf_nonneg {portion : Text} {total amount : Int} (spelled : Script.IsPortion portion)
    (whole : 0 ≤ total) (h : amountOf portion total = .ok amount) : 0 ≤ amount := by
  obtain ⟨share, named, last⟩ := bind_eq_ok.mp h
  cases share with
  | none =>
      obtain rfl := Except.ok.inj last
      exact whole
  | some ratio =>
      obtain rfl := Except.ok.inj last
      have above : 0 ≤ ratio.numerator := share_nonneg spelled.unsigned named
      exact Int.ediv_nonneg (Int.mul_nonneg whole above) (Int.natCast_nonneg _)

end Portion

/-! ## Splits -/

namespace Allocation

/-- What is handed out altogether. -/
def total (allocations : List Allocation) : Int := (allocations.map amount).sum

theorem total_cons (allocation : Allocation) (rest : List Allocation) :
    total (allocation :: rest) = allocation.amount + total rest := by
  rw [total, List.map_cons, List.sum_cons]
  rfl

end Allocation

namespace Destination

/-- Whether allocations hand out an amount: to full addresses, nobody gets less than
nothing, and together they get all of it, unless there are none. -/
structure HandsOut (amount : Int) (allocations : List Allocation) : Prop where
  full : ∀ allocation ∈ allocations, Address.normalize allocation.account = allocation.account
  nonneg : ∀ allocation ∈ allocations, 0 ≤ allocation.amount
  whole : allocations = [] ∨ Allocation.total allocations = amount

theorem ownPortion?_eq_some {isLast : Bool} {given : Option Text} {portion : Text}
    (h : ownPortion? isLast given = some portion) : given = some portion := by
  cases given with
  | none => cases h
  | some other => exact (Option.ite_none_left_eq_some.mp h).2

/-- What one destination takes of what is left. -/
def takes (total left : Int) (isLast : Bool) (portion : Option Text) : Except Fault Int :=
  match ownPortion? isLast portion with
  | some portion => Portion.amountOf portion total
  | none => .ok left

theorem takes_last (total left : Int) (portion : Option Text) :
    takes total left true portion = .ok left := by
  cases portion <;> rfl

theorem takes_nonneg {total left amount : Int} {isLast : Bool} {portion : Option Text}
    (spelled : ∀ given ∈ portion, Script.IsPortion given) (whole : 0 ≤ total) (more : 0 ≤ left)
    (h : takes total left isLast portion = .ok amount) : 0 ≤ amount := by
  unfold takes at h
  split at h
  · next given own => exact Portion.amountOf_nonneg (spelled given (ownPortion?_eq_some own)) whole h
  · obtain rfl := Except.ok.inj h
    exact more

/-- The first destination takes its amount, unless this is more than is left, and the others
share what it leaves. -/
theorem splitLeft_eq (vars : Variables) (total left : Int) (reference : Text)
    (portion : Option Text) (rest : List (Text × Option Text)) :
    splitLeft vars total left ((reference, portion) :: rest) =
      Script.resolve vars reference >>= fun account =>
        takes total left rest.isEmpty portion >>= fun amount =>
          if left < amount then .error (.portionsExceed total (amount - left))
          else (splitLeft vars total (left - amount) rest).map
            (({ account, amount } : Allocation) :: ·) := by
  rw [splitLeft]
  refine congrArg _ (funext fun account => ?_)
  have behind (amount : Int) : (do
      if left < amount then throw (Fault.portionsExceed total (amount - left))
      let others ← splitLeft vars total (left - amount) rest
      return ({ account, amount } : Allocation) :: others) =
      if left < amount then .error (.portionsExceed total (amount - left))
      else (splitLeft vars total (left - amount) rest).map (({ account, amount } : Allocation) :: ·) := by
    by_cases exceeds : left < amount
    · rw [if_pos exceeds, if_pos exceeds]
      rfl
    · rw [if_neg exceeds, if_neg exceeds]
      cases splitLeft vars total (left - amount) rest <;> rfl
  unfold takes
  cases ownPortion? rest.isEmpty portion with
  | none => exact behind left
  | some given => exact congrArg _ (funext behind)

theorem splitLeft_cons {vars : Variables} {total left : Int} {reference : Text}
    {portion : Option Text} {rest : List (Text × Option Text)} {allocations : List Allocation}
    (h : splitLeft vars total left ((reference, portion) :: rest) = .ok allocations) :
    ∃ account amount others, Script.resolve vars reference = .ok account ∧
      takes total left rest.isEmpty portion = .ok amount ∧ amount ≤ left ∧
      splitLeft vars total (left - amount) rest = .ok others ∧
      allocations = { account, amount } :: others := by
  rw [splitLeft_eq] at h
  obtain ⟨account, found, later⟩ := bind_eq_ok.mp h
  obtain ⟨amount, taken, last⟩ := bind_eq_ok.mp later
  split at last
  · cases last
  · next within =>
      cases handed : splitLeft vars total (left - amount) rest with
      | error fault =>
          rw [handed] at last
          cases last
      | ok others =>
          rw [handed] at last
          exact ⟨account, amount, others, found, taken, Int.not_lt.mp within, handed,
            (Except.ok.inj last).symm⟩

theorem handsOut_splitLeft {vars : Variables} {total left : Int}
    {destinations : List (Text × Option Text)} {allocations : List Allocation}
    (spelled : ∀ destination ∈ destinations, ∀ portion ∈ destination.2, Script.IsPortion portion)
    (whole : 0 ≤ total) (more : 0 ≤ left)
    (h : splitLeft vars total left destinations = .ok allocations) :
    HandsOut left allocations := by
  induction destinations generalizing left allocations with
  | nil =>
      obtain rfl := Except.ok.inj h
      exact ⟨nofun, nofun, Or.inl rfl⟩
  | cons destination rest ih =>
      obtain ⟨reference, portion⟩ := destination
      obtain ⟨here, others⟩ := List.forall_mem_cons.mp spelled
      obtain ⟨account, amount, later, found, taken, within, handed, rfl⟩ := splitLeft_cons h
      obtain ⟨full, nonneg, all⟩ := ih others (by omega) handed
      refine ⟨List.forall_mem_cons.mpr ⟨Script.resolve_isFull found, full⟩,
        List.forall_mem_cons.mpr ⟨takes_nonneg here whole more taken, nonneg⟩, Or.inr ?_⟩
      rw [Allocation.total_cons]
      dsimp only
      rcases all with rfl | sum
      · -- Whoever is last takes all that is left.
        have last : rest = [] := by
          cases rest with
          | nil => rfl
          | cons next rest =>
              obtain ⟨_, _, _, _, _, _, _, more⟩ := splitLeft_cons handed
              cases more
        rw [last, List.isEmpty_nil, takes_last] at taken
        obtain rfl := Except.ok.inj taken
        exact Int.add_zero left
      · omega

/-- A split with proper portions hands out the whole amount. -/
theorem handsOut_split {vars : Variables} {total : Int} {destinations : List Destination}
    {allocations : List Allocation}
    (spelled : ∀ destination ∈ destinations, ∀ portion ∈ destination.portion,
      Script.IsPortion portion)
    (whole : 0 ≤ total) (h : split vars total destinations = .ok allocations) :
    HandsOut total allocations := by
  refine handsOut_splitLeft (fun entry mem => ?_) whole whole h
  obtain ⟨destination, listed, kept⟩ := List.mem_filterMap.mp mem
  split at kept
  · obtain rfl := Option.some.inj kept
    exact spelled destination listed
  · cases kept

end Destination

end DoubleEntry
