import DoubleEntry.Proofs.Execution.Acceptance
import DoubleEntry.Proofs.Faults
import Mathlib.Data.ENat.Lattice

/-!
# The waterfall in closed form

Every source has a capacity, set beforehand by its cap and by what its account holds. A
waterfall takes from the sources in order what their capacities and the rest of the need let
through; so it takes the need or all capacities together, whichever is less.
-/

namespace DoubleEntry

/-! ## Pouring -/

/-- What each of a row of capacities contributes, in order, to a need. -/
noncomputable def pour (need : Nat) : List ℕ∞ → List Nat
  | [] => []
  | capacity :: rest =>
    let gift := (min capacity need).toNat
    gift :: pour (need - gift) rest

theorem coe_toNat_min (capacity : ℕ∞) (need : Nat) :
    ((min capacity need).toNat : ℕ∞) = min capacity need :=
  ENat.natCast_toNat (ne_top_of_le_ne_top (ENat.natCast_ne_top need) (min_le_right _ _))

theorem length_pour (need : Nat) (capacities : List ℕ∞) :
    (pour need capacities).length = capacities.length := by
  induction capacities generalizing need with
  | nil => rfl
  | cons capacity rest ih => rw [pour, List.length_cons, List.length_cons, ih]

/-- Each capacity contributes what it and the rest of the need let through. -/
theorem pour_getElem? {need : Nat} {capacities : List ℕ∞} {place gift : Nat} {capacity : ℕ∞}
    (given : (pour need capacities)[place]? = some gift)
    (listed : capacities[place]? = some capacity) :
    (gift : ℕ∞) = min capacity ((need - ((pour need capacities).take place).sum : Nat) : ℕ∞) := by
  induction capacities generalizing need place with
  | nil => cases given
  | cons first rest ih =>
      cases place with
      | zero =>
          obtain rfl := Option.some.inj given
          obtain rfl := Option.some.inj listed
          exact coe_toNat_min first need
      | succ place =>
          rw [ih given listed, pour, List.take_succ_cons, List.sum_cons, Nat.sub_add_eq]

/-- All contributions together are the need or all capacities, whichever is less. -/
theorem sum_pour (need : Nat) (capacities : List ℕ∞) :
    ((pour need capacities).sum : ℕ∞) = min (need : ℕ∞) capacities.sum := by
  induction capacities generalizing need with
  | nil => rw [pour, List.sum_nil, List.sum_nil, Nat.cast_zero, min_zero]
  | cons capacity rest ih =>
      rw [pour, List.sum_cons, List.sum_cons, Nat.cast_add, ih, coe_toNat_min]
      rcases le_total (need : ℕ∞) capacity with most | least
      · have enough : (need : ℕ∞) ≤ capacity + rest.sum := le_add_right most
        rw [min_eq_right most, ENat.toNat_natCast, Nat.sub_self, Nat.cast_zero, zero_min, add_zero,
          min_eq_left enough]
      · obtain ⟨amount, rfl⟩ := ENat.ne_top_iff_exists.mp
          (ne_top_of_le_ne_top (ENat.natCast_ne_top need) least)
        rw [min_eq_left least, ENat.toNat_natCast, ← min_add_add_left, ← Nat.cast_add,
          Nat.add_sub_cancel' (Nat.cast_le.mp least)]

theorem sum_pour_le (need : Nat) (capacities : List ℕ∞) : (pour need capacities).sum ≤ need := by
  rw [← Nat.cast_le (α := ℕ∞), sum_pour]
  exact min_le_left _ _

/-! ## Capacities -/

/-- A quantity as a number; to ask for everything counts as less than nothing. -/
def Quantity.amount : Quantity → Int
  | .exactly amount => amount
  | .everything => Binding.everything

namespace Source

/-- The most that a cap lets through: its amount, or nothing where that is negative. Without a
cap there is no limit. -/
def ceiling (cap : Option Monetary) : ℕ∞ :=
  match cap with
  | none => ⊤
  | some literal => (max literal.quantity.amount 0).toNat

theorem coe_capped (cap : Option Monetary) (needed : Nat) :
    (capped cap needed : ℕ∞) = min (ceiling cap) needed := by
  cases cap with
  | none => exact (top_inf_eq _).symm
  | some literal =>
      unfold capped ceiling
      dsimp only
      cases literal.quantity with
      | exactly amount =>
          rw [Quantity.amount, max_eq_left (Int.natCast_nonneg amount), Int.toNat_natCast, min_comm,
            Nat.mono_cast.map_min]
      | everything => exact (zero_min _).symm

/-- Whether a source may draw on its account beyond what that holds. -/
def mayOverdraw (source : Source) (account : Text) : Bool :=
  source.overdraft.isGranted || account = Address.world

end Source

namespace Ledger

variable (ledger : Ledger) (overlay : Overlay) (asset : Text)

/-- The most that a source gives from its account: what its cap lets through, and no more than
the account holds unless it may go below zero. -/
noncomputable def capacity (source : Source) (account : Text) : ℕ∞ :=
  if source.mayOverdraw account then Source.ceiling source.cap
  else min (Source.ceiling source.cap) (overlay.effective ledger account asset).toNat

/-- The capacities of sources from their accounts. -/
noncomputable def capacities (sources : List Source) (accounts : List Text) : List ℕ∞ :=
  List.zipWith (ledger.capacity overlay asset) sources accounts

theorem coe_given (source : Source) (account : Text) (needed : Nat) :
    (ledger.given overlay asset source account needed : ℕ∞) =
      min (ledger.capacity overlay asset source account) needed := by
  unfold given Source.gives capacity Source.mayOverdraw
  dsimp only
  split
  · exact Source.coe_capped _ _
  · rw [Nat.mono_cast.map_min, Source.coe_capped, min_right_comm]

/-- What a source gives is what its capacity contributes. -/
theorem given_eq (source : Source) (account : Text) (needed : Nat) :
    ledger.given overlay asset source account needed =
      (min (ledger.capacity overlay asset source account) needed).toNat := by
  rw [← coe_given, ENat.toNat_natCast]

/-! ## Draws -/

/-- The draws that contributions of sources from their accounts are. Who contributes nothing is
left out. -/
def drawsOf (sources : List Source) (accounts : List Text) (gifts : List Nat) : List Draw :=
  ((sources.zip accounts).zip gifts).filterMap fun ((source, account), gift) =>
    if gift = 0 then none
    else some { account, amount := gift, mayOverdraw := source.mayOverdraw account }

theorem drawsOf_cons (source : Source) (sources : List Source) (account : Text)
    (accounts : List Text) (gift : Nat) (gifts : List Nat) :
    drawsOf (source :: sources) (account :: accounts) (gift :: gifts) =
      if gift = 0 then drawsOf sources accounts gifts
      else ⟨account, gift, source.mayOverdraw account⟩ :: drawsOf sources accounts gifts := by
  by_cases none : gift = 0 <;> simp [drawsOf, none]

theorem drawsOf_nothing (sources : List Source) (accounts : List Text) (capacities : List ℕ∞) :
    drawsOf sources accounts (pour 0 capacities) = [] := by
  induction capacities generalizing sources accounts with
  | nil => rw [drawsOf, pour, List.zip_nil_right, List.filterMap_nil]
  | cons capacity rest ih =>
      have none : (min capacity ((0 : Nat) : ℕ∞)).toNat = 0 := by
        rw [Nat.cast_zero, min_zero, ENat.toNat_zero]
      rw [pour, none]
      match sources, accounts with
      | [], _ => rfl
      | _ :: _, [] => rfl
      | source :: sources, account :: accounts =>
          rw [drawsOf_cons, if_pos rfl]
          exact ih sources accounts

variable {vars : Variables} {sources : List Source} {accounts : List Text}

/-- From sources with known accounts a waterfall draws what their capacities contribute. -/
theorem drawFrom_eq
    (found : List.Forall₂ (fun source account => Script.resolve vars source.account = .ok account)
      sources accounts) (need : Nat) :
    ledger.drawFrom overlay vars asset need sources =
      .ok (drawsOf sources accounts (pour need (ledger.capacities overlay asset sources accounts)),
        need - (pour need (ledger.capacities overlay asset sources accounts)).sum) := by
  induction found generalizing need with
  | nil => rw [drawFrom]; rfl
  | @cons source account rest others here later ih =>
      cases need with
      -- The waterfall stops here, while the contributions go on with zeros, which no draw shows.
      | zero => rw [drawFrom, drawsOf_nothing, Nat.zero_sub]
      | succ need =>
          have unfolded : pour (need + 1) (ledger.capacities overlay asset (source :: rest)
              (account :: others)) =
              ledger.given overlay asset source account (need + 1) ::
                pour (need + 1 - ledger.given overlay asset source account (need + 1))
                  (ledger.capacities overlay asset rest others) := by
            rw [given_eq]
            rfl
          rw [unfolded, drawsOf_cons, List.sum_cons, ← Nat.sub_sub]
          exact drawFrom_succ.mpr ⟨account, _, here, ih _, rfl⟩

/-- Whether a source with a known account stands for a shortfall: the outside world, and
whoever has an overdraft without bounds. -/
theorem any_coversShortfall
    (found : List.Forall₂ (fun source account => Script.resolve vars source.account = .ok account)
      sources accounts) :
    sources.any (coversShortfall vars) = true ↔
      ∃ outlet ∈ sources.zip accounts,
        outlet.1.overdraft.isUnbounded = true ∨ outlet.2 = Address.world := by
  induction found with
  | nil => simp
  | @cons source account rest others here later ih =>
      rw [List.any_cons, Bool.or_eq_true, ih, List.zip_cons_cons, List.exists_mem_cons_iff]
      simp [coversShortfall, here]

theorem draw_eq {need : Nat}
    (found : List.Forall₂ (fun source account => Script.resolve vars source.account = .ok account)
      sources accounts) {gifts : List Nat}
    (poured : gifts = pour need (ledger.capacities overlay asset sources accounts)) :
    ledger.draw overlay vars asset sources need =
      if gifts.sum < need ∧ ¬∃ outlet ∈ sources.zip accounts,
          outlet.1.overdraft.isUnbounded = true ∨ outlet.2 = Address.world
      then .error (.shortfall (.text asset) (need - gifts.sum))
      else .ok (drawsOf sources accounts gifts) := by
  have short : (decide (0 < need - gifts.sum) && !sources.any (coversShortfall vars)) = true ↔
      gifts.sum < need ∧ ¬∃ outlet ∈ sources.zip accounts,
        outlet.1.overdraft.isUnbounded = true ∨ outlet.2 = Address.world := by
    rw [← any_coversShortfall found, Bool.and_eq_true, decide_eq_true_eq, Bool.not_eq_true',
      Bool.not_eq_true, Nat.sub_pos_iff_lt]
  have within : gifts.sum ≤ need := poured ▸ sum_pour_le _ _
  rw [draw, drawFrom_eq ledger overlay asset found, ← poured]
  by_cases missing : (decide (0 < need - gifts.sum) && !sources.any (coversShortfall vars)) = true
  · rw [if_pos (short.mp missing), ← Int.ofNat_sub within]
    simp only [bind, Except.bind, missing, if_true]
    rfl
  · rw [if_neg (mt short.mpr missing)]
    simp only [bind, Except.bind, missing]
    rfl

/-- What a waterfall gives and when it is refused. Each source contributes as much as its
capacity and the rest of the need behind the sources before it let through. Who contributes
something is drawn on, in order; altogether the need or all capacities are drawn, whichever is
less. It is refused just where this is less than the need and nobody stands for the shortfall.
The missing amount is then reported as a lack of funds, just when it can be written; it always
can be if the need can. -/
theorem draw_closed_form (need : Nat)
    (found : sources.mapM (fun source => Script.resolve vars source.account) = .ok accounts) :
    ∃ gifts : List Nat, gifts.length = sources.length ∧
      (∀ (place : Nat) (source : Source) (account : Text) (gift : Nat),
        sources[place]? = some source → accounts[place]? = some account →
        gifts[place]? = some gift →
          (gift : ℕ∞) = min (ledger.capacity overlay asset source account)
            ((need - (gifts.take place).sum : Nat) : ℕ∞)) ∧
      (gifts.sum : ℕ∞) = min (need : ℕ∞) (ledger.capacities overlay asset sources accounts).sum ∧
      ledger.draw overlay vars asset sources need =
        (if gifts.sum < need ∧ ¬∃ outlet ∈ sources.zip accounts,
            outlet.1.overdraft.isUnbounded = true ∨ outlet.2 = Address.world
        then .error (.shortfall (.text asset) (need - gifts.sum))
        else .ok (drawsOf sources accounts gifts)) ∧
      (∀ fault, ledger.draw overlay vars asset sources need = .error fault →
        (fault.reported.kind = .insufficientFunds ↔ Decimal.fits (need - gifts.sum) = true) ∧
          (fault.reported.kind = .insufficientFunds → fault.reported = fault) ∧
          (fault.reported.kind ≠ .insufficientFunds → fault.reported = .unwritable)) ∧
      (Decimal.fits need = true → Decimal.fits (need - gifts.sum) = true) := by
  have each := mapM_eq_ok.mp found
  have closed := draw_eq ledger overlay asset each
    (Eq.refl (pour need (ledger.capacities overlay asset sources accounts)))
  refine ⟨pour need (ledger.capacities overlay asset sources accounts), ?_, ?_, sum_pour _ _,
    closed, ?_, ?_⟩
  · rw [length_pour, capacities, List.length_zipWith, each.length_eq, Nat.min_self]
  · intro place source account gift here there given
    refine pour_getElem? given ?_
    rw [capacities, List.getElem?_zipWith, here, there]
  · intro fault failed
    rw [closed] at failed
    split at failed
    · obtain rfl := Except.error.inj failed
      exact ⟨Fault.kind_reported_shortfall _ _, Fault.reported_of_kind rfl rfl,
        Fault.reported_of_kind_ne rfl⟩
    · cases failed
  · have within := sum_pour_le need (ledger.capacities overlay asset sources accounts)
    exact Decimal.fits_of_le (by omega) (by omega)

/-- Sources of all kinds: capped, without funds, capped with an overdraft, and once more the
first account. -/
def tiered : List Source :=
  [{ account := "@a", cap := some ⟨"USD/2", .exactly 3⟩, overdraft := .refused },
    { account := "@b", cap := none, overdraft := .refused },
    { account := "@c", cap := some ⟨"USD/2", .exactly 4⟩, overdraft := .granted false none },
    { account := "@a", cap := none, overdraft := .refused }]

/-- A ledger on which the first of these accounts holds something and the second owes it. -/
def indebted : Ledger := (create (.text "main") none false).transfer ⟨"@b", "@a", "USD/2", 10⟩

/-- The contributions of these sources to a need, and the draws that they are. -/
theorem draw_tiered :
    tiered.mapM (fun source => Script.resolve [] source.account) = .ok ["@a", "@b", "@c", "@a"] ∧
      ∃ gifts : List Nat, gifts.length = 4 ∧
        (gifts.sum : ℕ∞) =
          min 12 (indebted.capacities [] "USD/2" tiered ["@a", "@b", "@c", "@a"]).sum ∧
        drawsOf tiered ["@a", "@b", "@c", "@a"] gifts =
          [⟨"@a", 3, false⟩, ⟨"@c", 4, true⟩, ⟨"@a", 5, false⟩] := by
  have found : tiered.mapM (fun source => Script.resolve [] source.account) =
      .ok ["@a", "@b", "@c", "@a"] := toOption_eq_some.mp (by decide +kernel)
  have drawn : indebted.draw [] [] "USD/2" tiered 12 =
      .ok [⟨"@a", 3, false⟩, ⟨"@c", 4, true⟩, ⟨"@a", 5, false⟩] :=
    toOption_eq_some.mp (by decide +kernel)
  obtain ⟨gifts, length, -, total, closed, -, -⟩ :=
    draw_closed_form indebted [] "USD/2" 12 found
  refine ⟨found, gifts, length, total, ?_⟩
  rw [drawn] at closed
  split at closed
  · cases closed
  · exact (Except.ok.inj closed).symm

/-- A plain source whose account holds nothing. -/
def unfunded : Source := { account := "@a", cap := none, overdraft := .refused }

/-- On a new ledger nothing is drawn from such a source. -/
theorem draw_unfunded {need : Nat} (some_ : 0 < need) :
    (create (.text "main") none false).draw [] [] "USD/2" [unfunded] need =
      .error (.shortfall (.text "USD/2") need) := by
  have found : List.Forall₂
      (fun source account => Script.resolve [] source.account = .ok account) [unfunded] ["@a"] :=
    .cons (toOption_eq_some.mp (by decide +kernel)) .nil
  have refused : unfunded.mayOverdraw "@a" = false := by decide +kernel
  have empty : Overlay.effective [] (create (.text "main") none false) "@a" "USD/2" = 0 := by
    decide +kernel
  have none_ : (create (.text "main") none false).capacity [] "USD/2" unfunded "@a" = 0 := by
    rw [capacity, refused, if_neg Bool.false_ne_true, empty]
    exact min_zero _
  have poured : [0] =
      pour need ((create (.text "main") none false).capacities [] "USD/2" [unfunded] ["@a"]) := by
    change [0] = pour need [(create (.text "main") none false).capacity [] "USD/2" unfunded "@a"]
    rw [none_, pour, zero_min, ENat.toNat_zero, pour]
  have outlets : ¬∃ outlet ∈ [unfunded].zip [("@a" : Text)],
      outlet.1.overdraft.isUnbounded = true ∨ outlet.2 = Address.world := by
    decide +kernel
  have closed := draw_eq _ [] "USD/2" found poured
  rw [if_pos ⟨some_, outlets⟩] at closed
  exact closed

/-- To ask such a source for more than can be written is refused, but not reported as a lack of
funds. And where the address of a source holds the word that grants overdrafts, the source is
read with one, so that it gives what its account does not hold. -/
theorem draw_untold :
    (∃ fault, (create (.text "main") none false).draw [] [] "USD/2" [unfunded]
        (Nat.pow 10 Decimal.digitLimit) = .error fault ∧
        fault.reported.kind ≠ .insufficientFunds) ∧
      Source.ofBlock "@allowing" = .ok [⟨"@allowing", none, .granted false none⟩] ∧
      (create (.text "main") none false).draw [] [] "USD/2"
        [⟨"@allowing", none, .granted false none⟩] 5 = .ok [⟨"@allowing", 5, true⟩] := by
  have long : Decimal.fits (Nat.pow 10 Decimal.digitLimit) = false := Decimal.fits_limit
  refine ⟨⟨_, draw_unfunded Decimal.limit_pos, ?_⟩, toOption_eq_some.mp (by decide +kernel),
    toOption_eq_some.mp (by decide +kernel)⟩
  rw [Ne, Fault.kind_reported_shortfall, long]
  exact Bool.false_ne_true

end Ledger

end DoubleEntry
