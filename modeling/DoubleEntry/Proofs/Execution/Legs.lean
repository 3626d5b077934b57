import DoubleEntry.Proofs.Execution.Monotone
import DoubleEntry.Proofs.Script.WellFormed

/-!
# From which draw to which allocation

Each posting of a send uses a draw and goes to an allocation. The draws are used up in order
while the allocations are filled in order, so nothing of a draw is lost, no allocation gets more
than it should, and an allocation gets less only where the draws end.
-/

namespace DoubleEntry

/-- A posting with the place of the draw that it uses and of the allocation that it goes to. -/
structure Leg where
  giver : Nat
  taker : Nat
  posting : Posting

namespace Leg

/-- What moves altogether in the legs with a place on one side. -/
def moved (side : Leg → Nat) (place : Nat) (legs : List Leg) : Nat :=
  ((legs.filter fun leg => side leg = place).map fun leg => leg.posting.amount).sum

theorem moved_cons (side : Leg → Nat) (place : Nat) (leg : Leg) (rest : List Leg) :
    moved side place (leg :: rest) =
      (if side leg = place then leg.posting.amount else 0) + moved side place rest := by
  by_cases here : side leg = place <;> simp [moved, here]

/-- Legs that are all shifted alike move at a shifted place what they moved at the place itself. -/
theorem moved_map (side : Leg → Nat) (shift : Leg → Leg) {next : Nat → Nat}
    (apart : Function.Injective next) (later : ∀ leg, side (shift leg) = next (side leg))
    (kept : ∀ leg, (shift leg).posting = leg.posting) (place : Nat) (legs : List Leg) :
    moved side (next place) (legs.map shift) = moved side place legs := by
  induction legs with
  | nil => rfl
  | cons leg rest ih =>
      rw [List.map_cons, moved_cons, moved_cons, later, kept, ih]
      simp only [apart.eq_iff]

theorem moved_map_zero (side : Leg → Nat) (shift : Leg → Leg)
    (later : ∀ leg, side (shift leg) = side leg + 1) (legs : List Leg) :
    moved side 0 (legs.map shift) = 0 := by
  induction legs with
  | nil => rfl
  | cons leg rest ih =>
      rw [List.map_cons, moved_cons, later, ih, if_neg (Nat.succ_ne_zero _)]

/-- The leg behind one more draw. -/
def nextGiver (leg : Leg) : Leg := { leg with giver := leg.giver + 1 }

/-- The leg behind one more allocation. -/
def nextTaker (leg : Leg) : Leg := { leg with taker := leg.taker + 1 }

/-- Whether a leg comes before another: neither its draw nor its allocation comes behind, and
they are not both the same. -/
structure Before (leg later : Leg) : Prop where
  giver : leg.giver ≤ later.giver
  taker : leg.taker ≤ later.taker
  apart : leg.giver < later.giver ∨ leg.taker < later.taker

theorem map_posting (shift : Leg → Leg) (kept : ∀ leg, (shift leg).posting = leg.posting)
    (legs : List Leg) : (legs.map shift).map posting = legs.map posting := by
  rw [List.map_map]
  exact List.map_congr_left fun leg _ => kept leg

end Leg

open Leg

/-- Whether legs of an asset lead from draws to allocations: in order, each draw is used up, and
each allocation is filled as far as the draws last behind the allocations before it. -/
structure Routes (asset : Text) (draws : List Draw) (allocations : List Allocation)
    (legs : List Leg) : Prop where
  giver : ∀ leg ∈ legs, ∃ draw, draws[leg.giver]? = some draw ∧
    leg.posting.source = draw.account
  taker : ∀ leg ∈ legs, ∃ allocation, allocations[leg.taker]? = some allocation ∧
    leg.posting.destination = allocation.account
  moves : ∀ leg ∈ legs, 0 < leg.posting.amount ∧ leg.posting.asset = asset
  ordered : legs.Pairwise Before
  used : ∀ {place : Nat} {draw : Draw}, draws[place]? = some draw →
    moved Leg.giver place legs = draw.amount
  filled : ∀ {place : Nat} {allocation : Allocation}, allocations[place]? = some allocation →
    (moved Leg.taker place legs : Int) =
      min allocation.amount (max 0 (Draw.total draws - Allocation.total (allocations.take place)))

namespace Routes

variable {asset : Text} {draw : Draw} {draws : List Draw} {allocation : Allocation}
  {allocations : List Allocation} {legs : List Leg}

/-- No legs lead from draws of nothing. -/
theorem nil (none : Draw.total draws = 0)
    (nonneg : ∀ allocation ∈ allocations, 0 ≤ allocation.amount) :
    Routes asset draws allocations [] where
  giver := nofun
  taker := nofun
  moves := nofun
  ordered := .nil
  used := by
    intro place draw here
    have part := Draw.amount_le_total (List.mem_of_getElem? here)
    change 0 = draw.amount
    omega
  filled := by
    intro place allocation here
    have some_ := nonneg allocation (List.mem_of_getElem? here)
    have before : 0 ≤ Allocation.total (allocations.take place) := by
      refine List.sum_nonneg fun amount mem => ?_
      obtain ⟨earlier, listed, rfl⟩ := List.mem_map.mp mem
      exact nonneg earlier (List.mem_of_mem_take listed)
    rw [none]
    change (0 : Int) = _
    omega

/-- A draw that is used up is passed over. -/
theorem nextDraw (routes : Routes asset draws allocations legs) (empty : draw.amount = 0) :
    Routes asset (draw :: draws) allocations (legs.map nextGiver) where
  giver := List.forall_mem_map.mpr routes.giver
  taker := List.forall_mem_map.mpr routes.taker
  moves := List.forall_mem_map.mpr routes.moves
  ordered := by
    refine List.pairwise_map.mpr (routes.ordered.imp fun before => ?_)
    exact ⟨Nat.succ_le_succ before.giver, before.taker, before.apart.imp_left Nat.succ_lt_succ⟩
  used := by
    intro place other here
    cases place with
    | zero =>
        obtain rfl := Option.some.inj here
        rw [moved_map_zero Leg.giver nextGiver (fun _ => rfl), empty]
    | succ place =>
        rw [moved_map Leg.giver nextGiver (add_left_injective 1) (fun _ => rfl) (fun _ => rfl)]
        exact routes.used here
  filled := by
    intro place other here
    have same : moved Leg.taker place (legs.map nextGiver) = moved Leg.taker place legs :=
      moved_map Leg.taker nextGiver Function.injective_id (fun _ => rfl) (fun _ => rfl) place legs
    rw [same, Draw.total_cons, empty, Nat.zero_add]
    exact routes.filled here

/-- An allocation that is filled is passed over. -/
theorem nextAllocation (routes : Routes asset draws allocations legs)
    (full : allocation.amount = 0) :
    Routes asset draws (allocation :: allocations) (legs.map nextTaker) where
  giver := List.forall_mem_map.mpr routes.giver
  taker := List.forall_mem_map.mpr routes.taker
  moves := List.forall_mem_map.mpr routes.moves
  ordered := by
    refine List.pairwise_map.mpr (routes.ordered.imp fun before => ?_)
    exact ⟨before.giver, Nat.succ_le_succ before.taker, before.apart.imp_right Nat.succ_lt_succ⟩
  used := by
    intro place other here
    have same : moved Leg.giver place (legs.map nextTaker) = moved Leg.giver place legs :=
      moved_map Leg.giver nextTaker Function.injective_id (fun _ => rfl) (fun _ => rfl) place legs
    exact same.trans (routes.used here)
  filled := by
    intro place other here
    cases place with
    | zero =>
        obtain rfl := Option.some.inj here
        rw [moved_map_zero Leg.taker nextTaker (fun _ => rfl), full]
        omega
    | succ place =>
        rw [moved_map Leg.taker nextTaker (add_left_injective 1) (fun _ => rfl) (fun _ => rfl),
          List.take_succ_cons, Allocation.total_cons, full, Int.zero_add]
        exact routes.filled here

/-- A part of the first draw is paid into the first allocation. -/
theorem pay {left : Draw} {rest : Allocation} {posting : Posting}
    (routes : Routes asset (left :: draws) (rest :: allocations) legs)
    (apart : ∀ leg ∈ legs, 0 < leg.giver ∨ 0 < leg.taker)
    (drawer : left.account = draw.account) (drawn : left.amount + posting.amount = draw.amount)
    (taker : rest.account = allocation.account)
    (taken : rest.amount + posting.amount = allocation.amount)
    (moves : 0 < posting.amount) (unit : posting.asset = asset)
    (source : posting.source = draw.account) (destination : posting.destination = allocation.account) :
    Routes asset (draw :: draws) (allocation :: allocations) (⟨0, 0, posting⟩ :: legs) where
  giver := by
    refine List.forall_mem_cons.mpr ⟨⟨draw, rfl, source⟩, fun leg mem => ?_⟩
    obtain ⟨other, here, same⟩ := routes.giver leg mem
    cases place : leg.giver with
    | zero =>
        rw [place] at here
        obtain rfl := Option.some.inj here
        exact ⟨draw, rfl, same.trans drawer⟩
    | succ behind =>
        rw [place] at here
        exact ⟨other, here, same⟩
  taker := by
    refine List.forall_mem_cons.mpr ⟨⟨allocation, rfl, destination⟩, fun leg mem => ?_⟩
    obtain ⟨other, here, same⟩ := routes.taker leg mem
    cases place : leg.taker with
    | zero =>
        rw [place] at here
        obtain rfl := Option.some.inj here
        exact ⟨allocation, rfl, same.trans taker⟩
    | succ behind =>
        rw [place] at here
        exact ⟨other, here, same⟩
  moves := List.forall_mem_cons.mpr ⟨⟨moves, unit⟩, routes.moves⟩
  ordered := List.pairwise_cons.mpr
    ⟨fun leg mem => ⟨Nat.zero_le _, Nat.zero_le _, apart leg mem⟩, routes.ordered⟩
  used := by
    intro place other here
    cases place with
    | zero =>
        obtain rfl := Option.some.inj here
        rw [moved_cons, if_pos rfl, routes.used rfl, Nat.add_comm]
        exact drawn
    | succ place =>
        rw [moved_cons, if_neg (Nat.succ_ne_zero place).symm, Nat.zero_add]
        exact routes.used here
  filled := by
    intro place other here
    have whole : (Draw.total (draw :: draws) : Int) =
        Draw.total (left :: draws) + posting.amount := by
      rw [Draw.total_cons, Draw.total_cons]
      omega
    cases place with
    | zero =>
        obtain rfl := Option.some.inj here
        have none : Allocation.total [] = 0 := rfl
        have behind : (moved Leg.taker 0 legs : Int) = _ := routes.filled rfl
        rw [List.take_zero, none] at behind ⊢
        rw [moved_cons, if_pos rfl, Nat.cast_add, behind, whole]
        dsimp only
        omega
    | succ place =>
        have behind : (moved Leg.taker (place + 1) legs : Int) = _ := routes.filled here
        rw [List.take_succ_cons, Allocation.total_cons] at behind ⊢
        rw [moved_cons, if_neg (Nat.succ_ne_zero place).symm, Nat.zero_add, behind, whole]
        congr 2
        omega

end Routes

/-! ## The legs of a send -/

section Legs

variable {asset : Text} {draws : List Draw} {allocations : List Allocation}
  {postings : List Posting}

/-- Each posting uses a draw up or fills an allocation, and no posting is left for the last of
them. -/
theorem length_pair (h : pair asset draws allocations = .ok postings) (drawn : draws ≠ [])
    (handed : allocations ≠ []) : postings.length + 1 ≤ draws.length + allocations.length := by
  have fewer : postings ≠ [] → postings.length + 1 ≤ draws.length + allocations.length := by
    clear drawn handed
    induction draws, allocations using pair.induct generalizing postings with
    | case1 allocations =>
        rw [pair] at h
        exact absurd (Except.ok.inj h).symm
    | case2 draws nonempty =>
        rw [pair] at h
        · exact absurd (Except.ok.inj h).symm
        · exact nonempty
    | case3 draw draws allocation allocations used ih =>
        rw [pair, if_pos used] at h
        intro some_
        have behind := ih h some_
        simp only [List.length_cons] at behind ⊢
        omega
    | case4 draw draws allocation allocations unused filled ih =>
        rw [pair, if_neg unused, if_pos filled] at h
        intro some_
        have behind := ih h some_
        simp only [List.length_cons] at behind ⊢
        omega
    | case5 draw draws allocation allocations unused unfilled fits ih =>
        rw [pair, if_neg unused, if_neg unfilled, if_pos fits] at h
        obtain ⟨posting, rest, made, paired, rfl⟩ := cons_eq_ok.mp h
        have behind := ih paired
        cases rest <;> simp at behind ⊢ <;> omega
    | case6 draw draws allocation allocations unused unfilled exceeds ih =>
        rw [pair, if_neg unused, if_neg unfilled, if_neg exceeds] at h
        obtain ⟨posting, rest, made, paired, rfl⟩ := cons_eq_ok.mp h
        have behind := ih paired
        cases rest <;> simp at behind ⊢ <;> omega
  have givers := List.length_pos_of_ne_nil drawn
  have takers := List.length_pos_of_ne_nil handed
  by_cases none : postings = []
  · rw [none, List.length_nil]
    omega
  · exact fewer none

/-- The postings of draws that the allocations can take are legs between them. -/
theorem routes_pair (nonneg : ∀ allocation ∈ allocations, 0 ≤ allocation.amount)
    (covered : Draw.total draws ≤ Allocation.total allocations)
    (h : pair asset draws allocations = .ok postings) :
    ∃ legs, legs.map Leg.posting = postings ∧ Routes asset draws allocations legs := by
  -- The pairing goes on without the first draw or the first allocation, so that the legs that it
  -- comes to there lead from or to the place behind.
  induction draws, allocations using pair.induct generalizing postings with
  | case1 allocations =>
      rw [pair] at h
      obtain rfl := Except.ok.inj h
      exact ⟨[], rfl, .nil rfl nonneg⟩
  | case2 draws nonempty =>
      rw [pair] at h
      · obtain rfl := Except.ok.inj h
        change (Draw.total draws : Int) ≤ 0 at covered
        exact ⟨[], rfl, .nil (by omega) nonneg⟩
      · exact nonempty
  | case3 draw draws allocation allocations used ih =>
      rw [pair, if_pos used] at h
      rw [Draw.total_cons, used, Nat.zero_add] at covered
      obtain ⟨legs, rfl, routes⟩ := ih nonneg covered h
      exact ⟨_, map_posting nextGiver (fun _ => rfl) legs, routes.nextDraw used⟩
  | case4 draw draws allocation allocations unused filled ih =>
      rw [pair, if_neg unused, if_pos filled] at h
      rw [Allocation.total_cons, filled, Int.zero_add] at covered
      obtain ⟨legs, rfl, routes⟩ := ih (List.forall_mem_cons.mp nonneg).2 covered h
      exact ⟨_, map_posting nextTaker (fun _ => rfl) legs, routes.nextAllocation filled⟩
  | case5 draw draws allocation allocations unused unfilled fits ih =>
      rw [pair, if_neg unused, if_neg unfilled, if_pos fits] at h
      obtain ⟨posting, rest, made, paired, rfl⟩ := cons_eq_ok.mp h
      obtain ⟨source, destination, unit, amount⟩ := Posting.make_eq_ok made
      rw [Draw.total_cons, Allocation.total_cons] at covered
      obtain ⟨legs, rfl, routes⟩ := ih
        (List.forall_mem_cons.mpr ⟨Int.sub_nonneg.mpr fits, (List.forall_mem_cons.mp nonneg).2⟩)
        (by rw [Allocation.total_cons]; dsimp only; omega) paired
      have behind : ∀ leg ∈ legs.map nextGiver, 0 < leg.giver ∨ 0 < leg.taker := by
        intro leg mem
        obtain ⟨shifted, -, rfl⟩ := List.mem_map.mp mem
        exact Or.inl (Nat.succ_pos _)
      have beyond : Routes asset ({ draw with amount := 0 } :: draws) _ _ := routes.nextDraw rfl
      refine ⟨⟨0, 0, posting⟩ :: legs.map nextGiver, ?_, beyond.pay behind rfl (by dsimp only; omega) rfl
        (by dsimp only; omega) (by omega) unit source destination⟩
      rw [List.map_cons, map_posting nextGiver fun _ => rfl]
  | case6 draw draws allocation allocations unused unfilled exceeds ih =>
      rw [pair, if_neg unused, if_neg unfilled, if_neg exceeds] at h
      obtain ⟨posting, rest, made, paired, rfl⟩ := cons_eq_ok.mp h
      obtain ⟨source, destination, unit, amount⟩ := Posting.make_eq_ok made
      obtain ⟨more, nonneg⟩ := List.forall_mem_cons.mp nonneg
      rw [Draw.total_cons, Allocation.total_cons] at covered
      obtain ⟨legs, rfl, routes⟩ := ih nonneg (by rw [Draw.total_cons]; dsimp only; omega) paired
      have behind : ∀ leg ∈ legs.map nextTaker, 0 < leg.giver ∨ 0 < leg.taker := by
        intro leg mem
        obtain ⟨shifted, -, rfl⟩ := List.mem_map.mp mem
        exact Or.inr (Nat.succ_pos _)
      have beyond : Routes asset _ ({ allocation with amount := 0 } :: allocations) _ :=
        routes.nextAllocation rfl
      refine ⟨⟨0, 0, posting⟩ :: legs.map nextTaker, ?_, beyond.pay behind rfl (by dsimp only; omega) rfl
        (by dsimp only; omega) (by omega) unit source destination⟩
      rw [List.map_cons, map_posting nextTaker fun _ => rfl]

end Legs

/-- What goes to the allocations up to a place is no more than what all of them get. -/
theorem Allocation.total_take_add_le {allocations : List Allocation} {place : Nat}
    {allocation : Allocation} (nonneg : ∀ allocation ∈ allocations, 0 ≤ allocation.amount)
    (here : allocations[place]? = some allocation) :
    total (allocations.take place) + allocation.amount ≤ total allocations := by
  have front : (allocations.take (place + 1)).map amount =
      (allocations.take place).map amount ++ [allocation.amount] := by
    rw [List.take_add_one, here, List.map_append]
    rfl
  have part : ((allocations.take (place + 1)).map amount).sum ≤ (allocations.map amount).sum := by
    refine ((List.take_sublist _ _).map amount).sum_le_sum fun given mem => ?_
    obtain ⟨listed, inside, rfl⟩ := List.mem_map.mp mem
    exact nonneg listed inside
  rw [front, List.sum_append, List.sum_singleton] at part
  exact part

namespace Ledger

/-- A send with proper portions that is worked out loses nothing and invents nothing. Nothing
moves if nobody is to get anything. Otherwise its postings are legs from the draws of its
sources to the allocations of its destinations: each draw is used up, and each allocation is
filled as far as the draws last. Where the sources give all that is sent, every allocation is
filled. -/
theorem executeSend_routes {ledger : Ledger} {overlay after : Overlay} {vars : Variables}
    {send : Send} {postings : List Posting}
    (spelled : ∀ destination ∈ send.destinations, ∀ portion ∈ destination.portion,
      Script.IsPortion portion)
    (h : ledger.executeSend overlay vars send = .ok (postings, after)) :
    ∃ total draws allocations, send.monetary.quantity = .exactly total ∧
      ledger.draw overlay vars send.monetary.asset send.sources total = .ok draws ∧
      Destination.split vars total send.destinations = .ok allocations ∧
      (allocations = [] → postings = []) ∧
      (allocations ≠ [] → ∃ legs, legs.map Leg.posting = postings ∧
        Routes send.monetary.asset draws allocations legs ∧
        (draws ≠ [] → postings.length ≤ draws.length + allocations.length - 1) ∧
        (Draw.total draws = total → ∀ place allocation, allocations[place]? = some allocation →
          (moved Leg.taker place legs : Int) = allocation.amount)) := by
  obtain ⟨worked, -⟩ := executeSend_eq_ok.mp h
  obtain ⟨total, draws, allocations, asked, drawn, handed, paired⟩ := sendPostings_eq_ok.mp worked
  obtain ⟨-, nonneg, whole⟩ :=
    Destination.handsOut_split spelled (Int.natCast_nonneg total) handed
  obtain ⟨left, waterfall, -⟩ := draw_eq_ok.mp drawn
  have within := drawFrom_total waterfall
  refine ⟨total, draws, allocations, asked, drawn, handed, fun nobody => ?_, fun somebody => ?_⟩
  · rw [nobody, pair_nil] at paired
    exact (Except.ok.inj paired).symm
  · have all := whole.resolve_left somebody
    obtain ⟨legs, same, routes⟩ := routes_pair nonneg (by omega) paired
    refine ⟨legs, same, routes, fun some_ => ?_, fun covered place allocation here => ?_⟩
    · have fewer := length_pair paired some_ somebody
      omega
    · have part := Allocation.total_take_add_le nonneg here
      have more := nonneg allocation (List.mem_of_getElem? here)
      rw [routes.filled here, covered, ← all]
      omega

/-- A send whose first source fills one destination and spills into the other. -/
def spilling : Send :=
  { monetary := { asset := "USD/2", quantity := .exactly 15 }
    sources := [{ account := "@a", cap := none, overdraft := .refused },
      { account := "@b", cap := none, overdraft := .refused }]
    destinations := [{ receiver := .account "@c", portion := some "1/5" },
      { receiver := .account "@d", portion := some Script.remainingWord }] }

/-- The legs of this send. -/
theorem executeSend_spilling :
    Send.ofText "send [USD/2 15] ( source = { @a @b } destination = { 1/5 to @c remaining to @d } )" =
        .ok spilling ∧
      ∃ legs, legs.map Leg.posting = [⟨"@a", "@c", "USD/2", 3⟩, ⟨"@a", "@d", "USD/2", 7⟩,
          ⟨"@b", "@d", "USD/2", 5⟩] ∧
        Routes "USD/2" [⟨"@a", 10, false⟩, ⟨"@b", 5, false⟩] [⟨"@c", 3⟩, ⟨"@d", 12⟩] legs := by
  have read : Send.ofText
      "send [USD/2 15] ( source = { @a @b } destination = { 1/5 to @c remaining to @d } )" =
      .ok spilling := toOption_eq_some.mp (by decide +kernel)
  have drawn : sufficient.draw [] [] "USD/2" spilling.sources 15 =
      .ok [⟨"@a", 10, false⟩, ⟨"@b", 5, false⟩] := toOption_eq_some.mp (by decide +kernel)
  have handed : Destination.split [] 15 spilling.destinations = .ok [⟨"@c", 3⟩, ⟨"@d", 12⟩] :=
    toOption_eq_some.mp (by decide +kernel)
  have paired : pair "USD/2" [⟨"@a", 10, false⟩, ⟨"@b", 5, false⟩] [⟨"@c", 3⟩, ⟨"@d", 12⟩] =
      .ok [⟨"@a", "@c", "USD/2", 3⟩, ⟨"@a", "@d", "USD/2", 7⟩, ⟨"@b", "@d", "USD/2", 5⟩] :=
    toOption_eq_some.mp (by decide +kernel)
  have worked := executeSend_eq_ok.mpr
    ⟨sendPostings_eq_ok.mpr ⟨15, _, _, rfl, drawn, handed, paired⟩, rfl⟩
  obtain ⟨total, draws, allocations, asked, drawn', handed', -, routed⟩ :=
    executeSend_routes (Send.isWellFormed_ofText read).portions worked
  obtain rfl : 15 = total := Quantity.exactly.inj asked
  obtain rfl := Except.ok.inj (drawn.symm.trans drawn')
  obtain rfl := Except.ok.inj (handed.symm.trans handed')
  obtain ⟨legs, same, routes, -⟩ := routed (List.cons_ne_nil _ _)
  exact ⟨read, legs, same, routes⟩

end Ledger

end DoubleEntry
