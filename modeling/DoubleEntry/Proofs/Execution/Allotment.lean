import DoubleEntry.Proofs.Execution.Split
import DoubleEntry.Proofs.Faults
import DoubleEntry.Proofs.Numerals
import DoubleEntry.Proofs.Script.Worth
import Mathlib.Algebra.Order.BigOperators.Group.List
import Mathlib.Tactic.Linarith

/-!
# Who is allotted what

What the destinations of an amount are to get can be said beforehand: a share of the whole
amount, rounded down, or what those in front leave. The amount is split just so, unless those
in front of some place are to get more than there is.
-/

namespace DoubleEntry

/-! ## Shares -/

namespace Portion

/-- Whether a share is what a destination claims with its portion: the exact value of a
percentage or a fraction, and none without a portion or with the word for what remains. -/
inductive Claims : Option Text → Option ℚ → Prop
  | nothing : Claims none none
  | remaining : Claims (some Script.remainingWord) none
  | percentage {number : Text} (chars : ∀ c ∈ number, isDecimalDigit c = true ∨ c = '.')
      (proper : Decimal.IsNumber number) :
      Claims (some (number ++ "%")) (some (Decimal.exact number / 100))
  | fraction {above below : Text} (nonempty : above ≠ [])
      (digits : ∀ c ∈ above, isDecimalDigit c = true)
      (others : ∀ c ∈ below, isDecimalDigit c = true)
      (short : above.length ≤ Decimal.digitLimit) (also : below.length ≤ Decimal.digitLimit)
      (nonzero : Decimal.value below ≠ 0) :
      Claims (some (above ++ "/" ++ below)) (some (Decimal.value above / Decimal.value below))

variable {portion : Option Text} {share : Option ℚ}

theorem Claims.nonneg {worth : ℚ} (claims : Claims portion (some worth)) : 0 ≤ worth := by
  cases claims with
  | percentage chars proper =>
      unfold Decimal.exact
      positivity
  | fraction nonempty digits others short also nonzero => positivity

theorem Claims.isPortion (claims : Claims portion share) :
    ∀ given ∈ portion, Script.IsPortion given := by
  intro given mem
  cases claims with
  | nothing => cases mem
  | remaining =>
      obtain rfl := Option.some.inj mem
      exact .remaining
  | percentage chars proper =>
      obtain rfl := Option.some.inj mem
      obtain ⟨first, inside, -⟩ := proper.digit
      exact .percentage (List.ne_nil_of_mem inside) chars
  | fraction nonempty digits others short also nonzero =>
      obtain rfl := Option.some.inj mem
      refine .fraction nonempty digits ?_ others
      rintro rfl
      exact nonzero rfl

/-- A share of its own is paid out by its exact value. -/
theorem Claims.amountOf {given : Text} {worth : ℚ} (claims : Claims (some given) (some worth))
    (total : Int) : amountOf given total = .ok ⌊(total : ℚ) * worth⌋ := by
  cases claims with
  | percentage chars proper =>
      obtain ⟨first, inside, -⟩ := proper.digit
      rw [amountOf_percentage (List.ne_nil_of_mem inside) chars, if_pos proper]
  | @fraction above below nonempty digits others short also nonzero =>
      have some_ : below ≠ [] := by
        rintro rfl
        exact nonzero rfl
      rw [amountOf_fraction nonempty digits some_ others, if_pos ⟨short, also, nonzero⟩]

/-- The word for what remains is no share of its own. -/
theorem Claims.ne_remaining {given : Text} {worth : ℚ} (claims : Claims (some given) (some worth)) :
    given ≠ Script.remainingWord := by
  cases claims with
  | percentage chars proper => exact percentage_ne_remaining _
  | fraction nonempty digits others short also nonzero => exact fraction_ne_remaining _ _

end Portion

/-! ## Amounts that are due -/

namespace Destination

/-- What a destination with a share is to get of a total of which something is left. -/
def due (total left : Int) (isLast : Bool) : Option ℚ → Int
  | none => left
  | some share => if isLast then left else ⌊(total : ℚ) * share⌋

/-- What destinations with given shares are to get in order. -/
def dues (total : Int) : Int → List (Option ℚ) → List Int
  | _, [] => []
  | left, share :: rest =>
    let amount := due total left rest.isEmpty share
    amount :: dues total (left - amount) rest

theorem length_dues (total left : Int) (shares : List (Option ℚ)) :
    (dues total left shares).length = shares.length := by
  induction shares generalizing left with
  | nil => rfl
  | cons share rest ih => simp [dues, ih]

/-- A share that is not the last is of the whole amount. -/
theorem dues_of_share {total left : Int} {shares : List (Option ℚ)} {place : Nat} {share : ℚ}
    (further : place + 1 < shares.length) (given : shares[place]? = some (some share)) :
    (dues total left shares)[place]? = some ⌊(total : ℚ) * share⌋ := by
  induction shares generalizing left place with
  | nil => cases given
  | cons first rest ih =>
      cases place with
      | zero =>
          obtain rfl := Option.some.inj given
          have more : rest.isEmpty = false := by
            cases rest with
            | nil => simp at further
            | cons next others => rfl
          simp [dues, due, more]
      | succ place =>
          have later := Nat.lt_of_succ_lt_succ further
          simpa [dues] using ih later given

/-- Whoever has no share, and whoever is last, gets what those in front leave. -/
theorem dues_of_rest {total left : Int} {shares : List (Option ℚ)} {place : Nat}
    (inside : place < shares.length)
    (rest : place + 1 = shares.length ∨ shares[place]? = some none) :
    (dues total left shares)[place]? = some (left - ((dues total left shares).take place).sum) := by
  induction shares generalizing left place with
  | nil => cases inside
  | cons first others ih =>
      cases place with
      | zero =>
          have whole : due total left others.isEmpty first = left := by
            rcases rest with last | none
            · obtain rfl : others = [] := by simpa using last.symm
              cases first <;> rfl
            · obtain rfl := Option.some.inj none
              rfl
          simp [dues, whole]
      | succ place =>
          have behind (left : Int) : (dues total left others)[place]? = _ :=
            ih (Nat.lt_of_succ_lt_succ inside) (by simpa using rest)
          simp [dues, behind, sub_sub]

/-! ## Splits as they are due -/

theorem takes_eq {portion : Option Text} {share : Option ℚ} (claims : Portion.Claims portion share)
    (total left : Int) (isLast : Bool) :
    takes total left isLast portion = .ok (due total left isLast share) := by
  cases share with
  | none =>
      have none : ownPortion? isLast portion = none := by
        cases claims with
        | nothing => rfl
        | remaining => simp [ownPortion?]
      simp [takes, none, due]
  | some worth =>
      cases isLast with
      | true => rw [takes_last, due, if_pos rfl]
      | false =>
          obtain ⟨given, rfl⟩ : ∃ given, portion = some given := by
            cases claims <;> exact ⟨_, rfl⟩
          have nonempty := (claims.isPortion given rfl).inner.nonempty
          have own : ownPortion? false (some given) = some given := by
            simp [ownPortion?, nonempty, claims.ne_remaining]
          simp [takes, own, claims.amountOf, due]

theorem splitLeft_step {vars : Variables} {total left : Int} {reference account : Text}
    {portion : Option Text} {share : Option ℚ} {rest : List (Text × Option Text)}
    (found : Script.resolve vars reference = .ok account)
    (claims : Portion.Claims portion share) :
    splitLeft vars total left ((reference, portion) :: rest) =
      let amount := due total left rest.isEmpty share
      if left < amount then .error (.portionsExceed total (amount - left))
      else (splitLeft vars total (left - amount) rest).map ({ account, amount } :: ·) := by
  rw [splitLeft_eq, found, takes_eq claims]
  rfl

section Splits

variable {vars : Variables} {total left : Int} {entries : List (Text × Option Text)}
  {accounts : List Text} {shares : List (Option ℚ)}
  (found : List.Forall₂ (fun entry account => Script.resolve vars entry.1 = .ok account)
    entries accounts)
  (claimed : List.Forall₂ (fun entry share => Portion.Claims entry.2 share) entries shares)
include found claimed

/-- An amount is split as it is due where nobody is to get more than is left. -/
theorem splitLeft_dues (within : ∀ count, ((dues total left shares).take count).sum ≤ left) :
    splitLeft vars total left entries =
      .ok (List.zipWith Allocation.mk accounts (dues total left shares)) := by
  induction found generalizing left shares with
  | nil =>
      cases claimed
      rfl
  | @cons entry account rest others here later ih =>
      cases claimed with
      | @cons _ share _ shares claims claimed =>
          have same : rest.isEmpty = shares.isEmpty := by cases claimed <;> rfl
          have first : due total left shares.isEmpty share ≤ left := by simpa [dues] using within 1
          have further (count : Nat) :
              ((dues total (left - due total left shares.isEmpty share) shares).take count).sum ≤
                left - due total left shares.isEmpty share := by
            have next := within (count + 1)
            rw [dues, List.take_succ_cons, List.sum_cons] at next
            exact Int.le_sub_left_of_add_le next
          rw [splitLeft_step here claims]
          simp only [same, dues, List.zipWith_cons_cons, ih claimed further,
            if_neg (Int.not_lt.mpr first)]
          rfl

/-- It is refused at the first place where more is to be had than is left, for as much as
exceeds the total there. -/
theorem splitLeft_exceeds (more : 0 ≤ left) {count : Nat}
    (before : ∀ fewer < count, ((dues total left shares).take fewer).sum ≤ left)
    (exceeds : left < ((dues total left shares).take count).sum) :
    splitLeft vars total left entries =
      .error (.portionsExceed total (((dues total left shares).take count).sum - left)) := by
  induction found generalizing left shares count with
  | nil =>
      cases claimed
      simp [dues] at exceeds
      omega
  | @cons entry account rest others here later ih =>
      cases claimed with
      | @cons _ share _ shares claims claimed =>
          have same : rest.isEmpty = shares.isEmpty := by cases claimed <;> rfl
          cases count with
          | zero =>
              simp at exceeds
              omega
          | succ count =>
              have earlier (fewer : Nat) (less : fewer < count) :
                  due total left shares.isEmpty share +
                    ((dues total (left - due total left shares.isEmpty share) shares).take
                      fewer).sum ≤ left := by
                simpa [dues] using before (fewer + 1) (Nat.succ_lt_succ less)
              rw [dues, List.take_succ_cons, List.sum_cons] at exceeds
              rw [splitLeft_step here claims, dues, List.take_succ_cons, List.sum_cons]
              simp only [same]
              by_cases tooMuch : left < due total left shares.isEmpty share
              · -- Then the place is the first one.
                obtain rfl : count = 0 := by
                  by_contra further
                  have alone := earlier 0 (Nat.pos_of_ne_zero further)
                  rw [List.take_zero, List.sum_nil, add_zero] at alone
                  exact tooMuch.not_ge alone
                rw [if_pos tooMuch, List.take_zero, List.sum_nil, add_zero]
              · have behind := ih claimed (Int.sub_nonneg.mpr (Int.not_lt.mp tooMuch))
                  (fun fewer less => Int.le_sub_left_of_add_le (earlier fewer less))
                  (Int.sub_left_lt_of_lt_add exceeds)
                rw [if_neg tooMuch, behind, sub_sub_eq_add_sub, add_comm]
                rfl

end Splits

/-! ## Shares that leave something -/

/-- The shares of a total, each rounded down. -/
def floors (total : Int) (fractions : List ℚ) : List Int :=
  fractions.map fun share => ⌊(total : ℚ) * share⌋

@[simp] theorem floors_nil (total : Int) : floors total [] = [] := rfl

@[simp] theorem floors_cons (total : Int) (share : ℚ) (rest : List ℚ) :
    floors total (share :: rest) = ⌊(total : ℚ) * share⌋ :: floors total rest := rfl

/-- With a share in front of every place but the last, each share is of the whole amount. -/
theorem dues_of_shares (total left : Int) (fractions : List ℚ) (last : Option ℚ) :
    dues total left (fractions.map some ++ [last]) =
      floors total fractions ++ [left - (floors total fractions).sum] := by
  induction fractions generalizing left with
  | nil => cases last <;> simp [dues, due]
  | cons share rest ih => simp [dues, due, ih, sub_sub]

theorem sum_floor_le (total : Int) (fractions : List ℚ) :
    ((floors total fractions).sum : ℚ) ≤ total * fractions.sum := by
  induction fractions with
  | nil => simp
  | cons share rest ih =>
      have below := Int.floor_le ((total : ℚ) * share)
      rw [floors_cons, List.sum_cons, List.sum_cons, Int.cast_add, mul_add]
      exact add_le_add below ih

theorem lt_sum_floor (total : Int) {fractions : List ℚ} (nonempty : fractions ≠ []) :
    (total : ℚ) * fractions.sum < (floors total fractions).sum + fractions.length := by
  have atMost (rest : List ℚ) :
      (total : ℚ) * rest.sum ≤ (floors total rest).sum + rest.length := by
    induction rest with
    | nil => simp
    | cons share rest ih =>
        have above := (Int.lt_floor_add_one ((total : ℚ) * share)).le
        simp only [floors_cons, List.sum_cons, List.length_cons, Int.cast_add, Nat.cast_add,
          Nat.cast_one, mul_add]
        linarith
  cases fractions with
  | nil => exact absurd rfl nonempty
  | cons share rest =>
      have above := Int.lt_floor_add_one ((total : ℚ) * share)
      have later := atMost rest
      simp only [floors_cons, List.sum_cons, List.length_cons, Int.cast_add, Nat.cast_add,
        Nat.cast_one, mul_add]
      linarith

section Fractions

variable {total : Int} {fractions : List ℚ} (whole : 0 ≤ total)
  (nonneg : ∀ share ∈ fractions, 0 ≤ share) (proper : fractions.sum ≤ 1)
include whole proper

theorem sum_floor_le_total : (floors total fractions).sum ≤ total := by
  have wholeCast : (0 : ℚ) ≤ total := Int.cast_nonneg whole
  have most : (total : ℚ) * fractions.sum ≤ total := mul_le_of_le_one_right wholeCast proper
  exact Int.cast_le.mp ((sum_floor_le total fractions).trans most)

include nonneg

/-- Proper shares are never more than the total together. -/
theorem sum_take_dues_le (last : Option ℚ) (count : Nat) :
    ((dues total total (fractions.map some ++ [last])).take count).sum ≤ total := by
  have within := sum_floor_le_total whole proper
  have above : ∀ amount ∈ floors total fractions, 0 ≤ amount := by
    intro amount mem
    obtain ⟨share, listed, rfl⟩ := List.mem_map.mp mem
    exact Int.floor_nonneg.mpr (mul_nonneg (Int.cast_nonneg whole) (nonneg share listed))
  -- Nobody gets less than nothing, and what the last place gets makes up the total.
  rw [dues_of_shares]
  calc (List.take count _).sum
      ≤ (List.sum (_ ++ [total - _])) := (List.take_sublist count _).sum_le_sum (by
          intro amount mem
          rcases List.mem_append.mp mem with front | back
          · exact above amount front
          · obtain rfl := List.mem_singleton.mp back
            exact sub_nonneg.mpr within)
    _ = total := by rw [List.sum_append, List.sum_singleton, add_sub_cancel]

end Fractions

/-! ## The plan of a split -/

/-- The plan of a split among destinations with given shares: whoever has a share and is not
last gets this share of the total, rounded down, and everybody else what those in front leave. -/
structure IsPlan (total : Int) (shares : List (Option ℚ)) (plan : List Int) : Prop where
  length : plan.length = shares.length
  share : ∀ {place : Nat} {share : ℚ}, place + 1 < shares.length →
    shares[place]? = some (some share) → plan[place]? = some ⌊(total : ℚ) * share⌋
  rest : ∀ {place : Nat}, place < shares.length →
    (place + 1 = shares.length ∨ shares[place]? = some none) →
      plan[place]? = some (total - (plan.take place).sum)

theorem isPlan_dues (total : Int) (shares : List (Option ℚ)) :
    IsPlan total shares (dues total total shares) :=
  ⟨length_dues total total shares, dues_of_share, dues_of_rest⟩

theorem map_amount_zipWith {accounts : List Text} {plan : List Int}
    (same : plan.length = accounts.length) :
    (List.zipWith Allocation.mk accounts plan).map Allocation.amount = plan := by
  calc (List.zipWith Allocation.mk accounts plan).map Allocation.amount
      = (accounts.zip plan).map Prod.snd := by rw [List.zip, List.map_zipWith, List.map_zipWith]
    _ = plan := List.map_snd_zip same.le

theorem nonneg_of_claims {entries : List (Text × Option Text)} {shares : List (Option ℚ)}
    (claimed : List.Forall₂ (fun entry share => Portion.Claims entry.2 share) entries shares) :
    ∀ share ∈ shares, ∀ worth ∈ share, 0 ≤ worth := by
  have each : List.Forall₂ (fun share entry => (∀ worth ∈ share, 0 ≤ worth) ∧
      Portion.Claims entry.2 share) shares entries := by
    refine claimed.flip.imp fun share entry claims => ⟨fun worth given => ?_, claims⟩
    obtain rfl := given
    exact claims.nonneg
  exact ((List.forall₂_and_left _ _).mp each).1

section Plans

variable {vars : Variables} {destinations : List Destination} {accounts : List Text}
  {shares : List (Option ℚ)} {total : Int}
  (found : List.Forall₂ (fun entry account => Script.resolve vars entry.1 = .ok account)
    (live destinations) accounts)
  (claimed : List.Forall₂ (fun entry share => Portion.Claims entry.2 share)
    (live destinations) shares)
include found claimed

/-- A split that is made hands out the total as a whole, and nobody gets less than nothing. -/
theorem nonneg_dues (whole : 0 ≤ total)
    (made : split vars total destinations =
      .ok (List.zipWith Allocation.mk accounts (dues total total shares))) :
    (∀ amount ∈ dues total total shares, 0 ≤ amount) ∧
      (dues total total shares ≠ [] → (dues total total shares).sum = total) := by
  have same : (dues total total shares).length = accounts.length := by
    rw [length_dues, ← claimed.length_eq, found.length_eq]
  have spelled : ∀ entry ∈ live destinations, ∀ given ∈ entry.2, Script.IsPortion given :=
    ((List.forall₂_and_left _ _).mp (claimed.imp fun _ _ claims => ⟨claims.isPortion, claims⟩)).1
  obtain ⟨-, nonneg, all⟩ := handsOut_splitLeft spelled whole whole made
  constructor
  · intro amount mem
    rw [← map_amount_zipWith same] at mem
    obtain ⟨allocation, listed, rfl⟩ := List.mem_map.mp mem
    exact nonneg allocation listed
  · intro somebody
    rcases all with nobody | sum
    · have none := congrArg (List.map Allocation.amount) nobody
      rw [map_amount_zipWith same] at none
      exact absurd none somebody
    · rwa [Allocation.total, map_amount_zipWith same] at sum

/-- An amount is split as planned where nobody is to get more than is left. -/
theorem split_within
    (within : ¬∃ count, total < ((dues total total shares).take count).sum) :
    split vars total destinations =
      .ok (List.zipWith Allocation.mk accounts (dues total total shares)) :=
  splitLeft_dues found claimed fun count => Int.not_lt.mp fun more => within ⟨count, more⟩

/-- It is refused at the first place where somebody is. -/
theorem split_exceeds (whole : 0 ≤ total)
    (exceeds : ∃ count, total < ((dues total total shares).take count).sum) :
    ∃ count, total < ((dues total total shares).take count).sum ∧
      (∀ fewer < count, ((dues total total shares).take fewer).sum ≤ total) ∧
      split vars total destinations = .error (.portionsExceed total
        (((dues total total shares).take count).sum - total)) := by
  classical
  have first : ∀ fewer < Nat.find exceeds, ((dues total total shares).take fewer).sum ≤ total :=
    fun fewer less => Int.not_lt.mp (Nat.find_min exceeds less)
  exact ⟨Nat.find exceeds, Nat.find_spec exceeds, first,
    splitLeft_exceeds found claimed whole first (Nat.find_spec exceeds)⟩

/-- A split follows its plan. It is refused just when those in front of some place and at it
are to get more than there is; the first such place says by how much, and this is reported as
a fault of the script just when the numbers can be written. Otherwise everybody gets what is
planned, which is all of the total. With a share in front of every place but the last, and the
shares no more than a whole, the total is split, and the last place gets what the exact shares
leave and less than one unit more for each of them. -/
theorem split_exact (whole : 0 ≤ total) :
    ∃ plan, IsPlan total shares plan ∧
      ((∃ fault, split vars total destinations = .error fault) ↔
        ∃ count, total < (plan.take count).sum) ∧
      (∀ fault, split vars total destinations = .error fault →
        ∃ count, total < (plan.take count).sum ∧
          (∀ fewer < count, (plan.take fewer).sum ≤ total) ∧
          fault = .portionsExceed total ((plan.take count).sum - total) ∧
          (fault.reported.kind = .execution ↔
            Decimal.fits total = true ∧ Decimal.fits ((plan.take count).sum - total) = true)) ∧
      (∀ allocations, split vars total destinations = .ok allocations →
        allocations = List.zipWith Allocation.mk accounts plan ∧
          (∀ amount ∈ plan, 0 ≤ amount) ∧ (plan ≠ [] → plan.sum = total)) ∧
      ∀ (fractions : List ℚ) (last : Option ℚ), fractions ≠ [] →
        shares = fractions.map some ++ [last] → fractions.sum ≤ 1 →
          (∃ allocations, split vars total destinations = .ok allocations) ∧
            ∃ amount, plan.getLast? = some amount ∧ total * (1 - fractions.sum) ≤ amount ∧
              amount < total * (1 - fractions.sum) + fractions.length := by
  refine ⟨dues total total shares, isPlan_dues total shares, ⟨?refused, ?exceeded⟩, ?fault,
    ?made, ?shared⟩
  case refused =>
    rintro ⟨fault, failure⟩
    by_contra within
    rw [split_within found claimed within] at failure
    cases failure
  case exceeded =>
    intro exceeds
    obtain ⟨count, -, -, failure⟩ := split_exceeds found claimed whole exceeds
    exact ⟨_, failure⟩
  case fault =>
    intro fault failure
    by_cases exceeds : ∃ count, total < ((dues total total shares).take count).sum
    · obtain ⟨count, more, first, refused⟩ := split_exceeds found claimed whole exceeds
      obtain rfl := Except.error.inj (failure.symm.trans refused)
      exact ⟨count, more, first, rfl, Fault.kind_reported_portionsExceed total _⟩
    · rw [split_within found claimed exceeds] at failure
      cases failure
  case made =>
    intro allocations made
    by_cases exceeds : ∃ count, total < ((dues total total shares).take count).sum
    · obtain ⟨count, -, -, refused⟩ := split_exceeds found claimed whole exceeds
      rw [refused] at made
      cases made
    · obtain rfl := Except.ok.inj (made.symm.trans (split_within found claimed exceeds))
      exact ⟨rfl, nonneg_dues found claimed whole made⟩
  case shared =>
    rintro fractions last nonempty rfl proper
    have nonneg : ∀ share ∈ fractions, 0 ≤ share := fun share mem =>
      nonneg_of_claims claimed _ (List.mem_append_left _ (List.mem_map_of_mem mem)) share rfl
    have within : ¬∃ count,
        total < ((dues total total (fractions.map some ++ [last])).take count).sum :=
      fun ⟨count, more⟩ => absurd (sum_take_dues_le whole nonneg proper last count)
        (Int.not_le.mpr more)
    refine ⟨⟨_, split_within found claimed within⟩, ?_⟩
    have below := sum_floor_le total fractions
    have above := lt_sum_floor total nonempty
    rw [dues_of_shares, List.getLast?_concat]
    refine ⟨_, rfl, ?_, ?_⟩
    · rw [Int.cast_sub]
      linarith
    · rw [Int.cast_sub]
      linarith

end Plans

/-- A third, a kept share, a third in percent and what remains. -/
def thirds : List Destination :=
  [{ receiver := .account "@a", portion := some "1/3" },
    { receiver := .kept, portion := some "10%" },
    { receiver := .account "@b", portion := some "33.3%" },
    { receiver := .account "@c", portion := some Script.remainingWord }]

/-- The plan for these shares of a hundred is followed. -/
theorem split_thirds :
    ∃ plan, IsPlan 100 [some (1 / 3), some (333 / 1000), none] plan ∧ plan.sum = 100 ∧
      split [] 100 thirds = .ok (List.zipWith Allocation.mk ["@a", "@b", "@c"] plan) := by
  have found : List.Forall₂ (fun entry account => Script.resolve [] entry.1 = .ok account)
      (live thirds) ["@a", "@b", "@c"] :=
    .cons (toOption_eq_some.mp (by decide +kernel)) (.cons (toOption_eq_some.mp (by decide +kernel))
      (.cons (toOption_eq_some.mp (by decide +kernel)) .nil))
  have claimed : List.Forall₂ (fun entry share => Portion.Claims entry.2 share)
      (live thirds) [some (1 / 3), some (333 / 1000), none] := by
    have third : Portion.Claims (some ("1" ++ "/" ++ "3"))
        (some (Decimal.value "1" / Decimal.value "3")) :=
      .fraction (by decide) (by decide +kernel) (by decide +kernel) (by decide) (by decide)
        (by decide +kernel)
    have percents : Portion.Claims (some ("33.3" ++ "%")) (some (Decimal.exact "33.3" / 100)) :=
      .percentage (by decide +kernel) (by decide +kernel)
    have worth : Decimal.exact "33.3" / 100 = 333 / 1000 := by
      have front : Decimal.value (Decimal.wholePart "33.3") = 33 := by decide +kernel
      have behind : Decimal.value (Decimal.fractionalPart "33.3") = 3 := by decide +kernel
      have places : (Decimal.fractionalPart "33.3").length = 1 := by decide +kernel
      rw [Decimal.exact, front, behind, places]
      norm_num
    have one : Decimal.value "1" = 1 := by decide +kernel
    have three : Decimal.value "3" = 3 := by decide +kernel
    rw [one, three, Nat.cast_one, Nat.cast_ofNat] at third
    rw [worth] at percents
    exact .cons third (.cons percents (.cons .remaining .nil))
  have whole : (0 : Int) ≤ 100 := by decide
  obtain ⟨plan, planned, -, -, made, shared⟩ := split_exact found claimed whole
  obtain ⟨⟨allocations, done⟩, amount, last, -⟩ :=
    shared [1 / 3, 333 / 1000] none (by simp) rfl (by norm_num)
  obtain ⟨rfl, -, all⟩ := made allocations done
  refine ⟨plan, planned, all ?_, done⟩
  rintro rfl
  cases last

/-- The digits of a power of ten. -/
def tenTo (exponent : Nat) : Text := .char '1' :: Decimal.zeros exponent

theorem tenTo_digits (exponent : Nat) : ∀ c ∈ tenTo exponent, isDecimalDigit c = true := by
  have one : isDecimalDigit '1' = true := by decide +kernel
  have zero : isDecimalDigit '0' = true := by decide +kernel
  refine List.forall_mem_cons.mpr ⟨one, fun c mem => ?_⟩
  rwa [List.eq_of_mem_replicate mem]

theorem exact_tenTo (exponent : Nat) : Decimal.exact (tenTo exponent) = 10 ^ exponent := by
  have one : Decimal.value [.char '1'] = 1 := by decide +kernel
  have parts := Decimal.value_append [.char '1'] (Decimal.zeros exponent)
  rw [one, Decimal.value_zeros, Decimal.zeros, List.length_replicate, Nat.one_mul, Nat.add_zero] at parts
  have value : (Decimal.value (tenTo exponent) : ℚ) = 10 ^ exponent := by
    rw [tenTo]
    exact_mod_cast congrArg (Nat.cast : Nat → ℚ) parts
  rw [Decimal.exact, Decimal.wholePart_digits (tenTo_digits exponent),
    Decimal.fractionalPart_digits (tenTo_digits exponent), value]
  simp [Decimal.value]

theorem claims_tenTo {exponent : Nat} (short : exponent < Decimal.digitLimit) :
    Portion.Claims (some (tenTo exponent ++ "%")) (some (10 ^ exponent / 100)) := by
  rw [← exact_tenTo]
  refine .percentage (fun c mem => Or.inl (tenTo_digits exponent c mem)) ?_
  rw [Decimal.isNumber_digits (tenTo_digits exponent) (List.cons_ne_nil _ _), tenTo,
    List.length_cons, Decimal.zeros, List.length_replicate]
  exact short

theorem floor_power (exponent : Nat) :
    ⌊((10000 : Int) : ℚ) * (10 ^ exponent / 100)⌋ = 10 ^ (exponent + 2) := by
  have scaled : ((10000 : Int) : ℚ) * (10 ^ exponent / 100) = ((10 ^ (exponent + 2) : Int) : ℚ) := by
    push_cast
    ring
  rw [scaled, Int.floor_intCast]

/-- A number just below ten times the first that cannot be written. -/
theorem not_fits_sub {excess : Int} (much : 10 ^ (Decimal.digitLimit + 1) ≤ excess + 10000) :
    ¬Decimal.fits excess = true := by
  have large : (10 : Int) ^ 4 ≤ 10 ^ Decimal.digitLimit := pow_le_pow_right₀ (by decide) (by decide)
  have cast (exponent : Nat) : ((Nat.pow 10 exponent : Nat) : Int) = 10 ^ exponent :=
    Int.natCast_pow 10 exponent
  have most := cast Decimal.digitLimit
  rw [pow_succ] at much
  rw [Decimal.fits, decide_eq_true_eq]
  generalize (10 : Int) ^ Decimal.digitLimit = limit at much large most
  omega

/-- A percentage by far over a whole, and what remains. -/
def steeply : List Destination :=
  [{ receiver := .account "@a", portion := some (tenTo 4299 ++ "%") },
    { receiver := .account "@b", portion := none }]

/-- Its accounts are known and its portions proper, and the first place is to get more than the
total, but this is not reported as a fault of the script: the excess has too many digits to be
written. -/
theorem split_steeply :
    List.Forall₂ (fun entry account => Script.resolve [] entry.1 = .ok account)
        (live steeply) ["@a", "@b"] ∧
      List.Forall₂ (fun entry share => Portion.Claims entry.2 share)
        (live steeply) [some (10 ^ 4299 / 100), none] ∧
      (∃ plan, IsPlan 10000 [some (10 ^ 4299 / 100), none] plan ∧
        10000 < (plan.take 1).sum) ∧
      ∃ fault, split [] 10000 steeply = .error fault ∧ fault.reported.kind ≠ .execution := by
  have claims : Portion.Claims (some (tenTo 4299 ++ "%")) (some (10 ^ 4299 / 100)) :=
    claims_tenTo (by decide)
  have exceeds : (10000 : Int) < ⌊((10000 : Int) : ℚ) * (10 ^ 4299 / 100)⌋ := by
    rw [floor_power]
    exact lt_of_lt_of_le (by decide) (pow_le_pow_right₀ (by decide) (by decide : 5 ≤ 4299 + 2))
  have found : Script.resolve [] "@a" = .ok "@a" := toOption_eq_some.mp (by decide +kernel)
  have other : Script.resolve [] "@b" = .ok "@b" := toOption_eq_some.mp (by decide +kernel)
  refine ⟨.cons found (.cons other .nil), .cons claims (.cons .nothing .nil),
    ⟨_, isPlan_dues _ _, ?_⟩, .portionsExceed 10000 (10 ^ (4299 + 2) - 10000), ?_, ?_⟩
  · rw [dues, List.take_succ_cons, List.take_zero, List.sum_singleton]
    exact exceeds
  · have first : splitLeft [] 10000 10000 [("@a", some (tenTo 4299 ++ "%")), ("@b", none)] = _ :=
      splitLeft_step found claims
    have share : due 10000 10000 [(("@b" : Text), (none : Option Text))].isEmpty
        (some (10 ^ 4299 / 100)) = ⌊((10000 : Int) : ℚ) * (10 ^ 4299 / 100)⌋ := rfl
    dsimp only at first
    rw [share, if_pos exceeds, floor_power] at first
    exact first
  · rw [Ne, Fault.kind_reported_portionsExceed]
    rintro ⟨-, fit⟩
    exact not_fits_sub (by rw [sub_add_cancel]; exact le_rfl) fit

end Destination

end DoubleEntry
