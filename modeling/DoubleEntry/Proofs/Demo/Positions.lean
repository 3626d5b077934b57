import DoubleEntry.Proofs.Demo.Stepping
import Mathlib.Data.List.Perm.Subperm

/-!
# Where steps are found

A step is asked for by its index, and an index below zero counts from the end. A session
refuses the indexes outside both ranges and records a step under the index that was asked
for, so the latest step can be recorded under the index that stands for no step at all.
-/

namespace DoubleEntry

/-! ## Places of a list -/

section Place

variable {α : Type} (items : List α) {index : Int}

theorem place?_eq_none_iff :
    place? items index = none ↔
      index < -(items.length : Int) ∨ (items.length : Int) ≤ index := by
  unfold place?
  dsimp only
  by_cases negative : index < 0
  · rw [if_pos negative]
    by_cases low : index + items.length < 0
    · rw [if_pos low]
      exact iff_of_true rfl (by omega)
    · rw [if_neg low, List.getElem?_eq_none_iff]
      omega
  · rw [if_neg negative, if_neg negative, List.getElem?_eq_none_iff]
    omega

/-- An index below zero counts from the end. -/
theorem place?_add_length (low : -(items.length : Int) ≤ index) (negative : index < 0) :
    place? items (items.length + index) = place? items index := by
  have high : ¬(items.length + index : Int) < 0 := by omega
  rw [place?, place?, if_pos negative, if_neg high, Int.add_comm]

end Place

/-! ## Refusals of a step that is not there -/

/-- No variable is refused because a step is not there. -/
theorem Variables.failsOnly_bind (vars : Variables) :
    FailsOnly (fun fault => fault.kind ≠ .noSuchPlace) vars.bind := by
  have amountOf (amount : Data) :
      FailsOnly (fun fault => fault.kind ≠ .noSuchPlace) (Binding.amountOf amount) := by
    unfold Binding.amountOf
    repeat' split
    all_goals first | exact failsOnly_ok _ | exact failsOnly_error nofun
  have each (entry : Text × Data) :
      FailsOnly (fun fault => fault.kind ≠ .noSuchPlace)
        (Binding.ofData entry.1 entry.2) := by
    unfold Binding.ofData
    split
    · exact failsOnly_error nofun
    · exact failsOnly_ok _
    · exact failsOnly_ok _
    · split
      · refine (failsOnly_writing nofun _ _).bind fun asset _ => ?_
        exact (amountOf _).bind fun amount _ => failsOnly_ok _
      · exact failsOnly_error nofun
    · exact failsOnly_error nofun
  exact FailsOnly.mapM fun entry _ => (each entry).map _

namespace Session

variable {session : Session}

/-- Just the indexes outside of the demo are answered by this refusal. -/
theorem OnOwnTerms.executeStep_eq_iff (own : session.OnOwnTerms) (index : Int) :
    session.executeStep index = (.error .noSuchPlace, session) ↔
      place? session.demo.steps index = none := by
  constructor
  · intro refused
    cases placed : place? session.demo.steps index with
    | none => rfl
    | some step =>
        have answer : (session.executeStep index).1 = .error .noSuchPlace := by rw [refused]
        obtain ⟨ran, -⟩ := (executeStep_error_iff placed).mp answer
        exfalso
        cases bound : Variables.bind session.demo.vars with
        | error fault =>
            rw [Ledger.run, Placeholder.substitute, bound] at ran
            obtain rfl := Except.error.inj ran
            exact Variables.failsOnly_bind _ _ bound rfl
        | ok bindings =>
            by_cases unfillable : Placeholder.Unfillable session.demo.vars step.script
            · rw [Ledger.run_unfillable unfillable] at ran
              cases ran
            · have known : Fault.noSuchPlace.IsOfRun :=
                Ledger.failsOnly_run own.not_cannotReport ⟨bindings, bound⟩ unfillable _ ran
              rcases known.1 with kind | kind | kind <;> cases kind
  · intro nowhere
    rw [executeStep, nowhere]

/-- Two indexes of one step are answered alike, and nothing but the index that is recorded
tells them apart. -/
theorem executeStep_alike {index other : Int}
    (alike : place? session.demo.steps index = place? session.demo.steps other) :
    (session.executeStep index).1 = (session.executeStep other).1 ∧
      (session.executeStep index).2.ledger = (session.executeStep other).2.ledger ∧
      (session.executeStep index).2.error = (session.executeStep other).2.error := by
  unfold executeStep
  rw [alike]
  cases place? session.demo.steps other with
  | none => exact ⟨rfl, rfl, rfl⟩
  | some step =>
      dsimp only
      cases session.ledger.run step.script session.demo.vars with
      | mk answer ledger =>
          cases answer with
          | ok tx => exact ⟨rfl, rfl, rfl⟩
          | error fault =>
              dsimp only
              split <;> exact ⟨rfl, rfl, rfl⟩

theorem mem_executed_recordStep (session : Session) (index other : Int) (tx : Transaction) :
    other ∈ (session.recordStep index tx).executed ↔
      other = index ∨ other ∈ session.executed := by
  change other ∈ (if session.executed.contains index then session.executed
    else session.executed ++ [index]) ↔ _
  split <;> rename_i known
  · rw [List.contains_iff_mem] at known
    refine ⟨Or.inr, ?_⟩
    rintro (rfl | mem)
    · exact known
    · exact mem
  · rw [List.mem_append, List.mem_singleton, or_comm]

/-- A step that goes well is recorded under the index that was asked for. -/
theorem recorded_of_committed {index : Int} {tx : Transaction}
    (answered : (session.executeStep index).1 = .ok (.committed tx)) :
    (session.executeStep index).2.currentStep = index ∧
      index ∈ (session.executeStep index).2.executed := by
  have course := executeStep_course session index
  generalize session.executeStep index = result at course answered ⊢
  cases course with
  | absent nowhere => cases answered
  | committed placed ran => exact ⟨rfl, (mem_executed_recordStep _ _ _ _).mpr (Or.inl rfl)⟩
  | refused placed ran known => cases answered
  | raised placed ran unknown => cases answered

/-! ## What is recorded -/

/-- Whether a session records nothing but steps of its demo, and below zero only indexes
that were asked for as such. -/
structure RecordsPlaces (asked : Int → Prop) (session : Session) : Prop where
  placed : ∀ index ∈ session.executed, place? session.demo.steps index ≠ none
  below : ∀ index ∈ session.executed, index < 0 → asked index
  fresh : session.executed = [] → session.currentStep = -1

variable {asked : Int → Prop}

theorem recordsPlaces_cleared (unexecuted : session.executed = [])
    (current : session.currentStep = -1) : session.RecordsPlaces asked where
  placed := by rw [unexecuted]; exact nofun
  below := by rw [unexecuted]; exact nofun
  fresh := fun _ => current

theorem RecordsPlaces.same {after : Session} (records : session.RecordsPlaces asked)
    (demo : after.demo = session.demo) (executed : after.executed = session.executed)
    (current : after.currentStep = session.currentStep) : after.RecordsPlaces asked where
  placed := by rw [executed, demo]; exact records.placed
  below := by rw [executed]; exact records.below
  fresh := by rw [executed, current]; exact records.fresh

theorem RecordsPlaces.executeStep (records : session.RecordsPlaces asked) {index : Int}
    (known : index < 0 → asked index) :
    (session.executeStep index).2.RecordsPlaces asked := by
  have course := executeStep_course session index
  generalize session.executeStep index = result at course ⊢
  cases course with
  | absent nowhere => exact records
  | @committed step tx ledger placed ran =>
      have mem (other : Int) := mem_executed_recordStep { session with ledger } index other tx
      refine ⟨?_, ?_, ?_⟩
      · intro other there
        rcases (mem other).mp there with rfl | before
        · exact fun nowhere => nomatch placed.symm.trans nowhere
        · exact records.placed other before
      · intro other there
        rcases (mem other).mp there with rfl | before
        · exact known
        · exact records.below other before
      · intro nothing
        have there := (mem index).mpr (Or.inl rfl)
        rw [nothing] at there
        cases there
  | refused placed ran known => exact records.same rfl rfl rfl
  | raised placed ran unknown => exact records.same rfl rfl rfl

/-- No action records anything but steps of the demo. Executing all steps asks for none
from the end. -/
theorem RecordsPlaces.act (records : session.RecordsPlaces asked) {action : Action}
    (known : ∀ index < 0, action = .executeStep index → asked index) :
    (session.act action).2.RecordsPlaces asked := by
  cases action with
  | executeStep index => exact records.executeStep fun negative => known index negative rfl
  | executeAll =>
      refine executeSteps_keeps_of_mem (P := RecordsPlaces asked) ?_ records
      intro session records index mem
      obtain ⟨place, -, rfl⟩ := List.mem_map.mp mem
      have upright : ¬(place : Int) < 0 := Int.not_lt.mpr (Int.natCast_nonneg place)
      exact records.executeStep fun negative => absurd negative upright
  | runQuery query =>
      have same := sameSteps_runQuery session query
      refine records.same ?_ same.executed same.currentStep
      unfold Session.act
      dsimp only
      cases answered : session.runQuery query with
      | error fault => rfl
      | ok found => exact (samePlan_runQuery session query answered).demo
  | reset => exact recordsPlaces_cleared rfl rfl
  | switchDemo demo => exact recordsPlaces_cleared rfl rfl

/-- Different indexes from a range are at most as many as the range has. -/
theorem length_le_of_within {indexes : List Int} {low high : Int} (once : indexes.Nodup)
    (within : ∀ index ∈ indexes, low ≤ index ∧ index < high) :
    indexes.length ≤ (high - low).toNat := by
  have listed : indexes ⊆ (List.range (high - low).toNat).map fun place : Nat => low + place := by
    intro index mem
    obtain ⟨from_, to_⟩ := within index mem
    refine List.mem_map.mpr ⟨(index - low).toNat, List.mem_range.mpr ?_, ?_⟩ <;> omega
  have most := (once.subperm listed).length_le
  rwa [List.length_map, List.length_range] at most

/-- In every state that a session comes to, just the indexes outside the demo, counted from
either end, are refused, and nothing changes then. An index from the end executes the step it
counts to, and this is recorded under the index that was asked for. So what is recorded lies
within both ranges, at most twice as many indexes as there are steps, the latest among them;
as long as no index below zero was asked for, it lies within the demo, and the latest step
tells whether anything was executed. -/
theorem executeStep_places (demo : Demo) (clock : Option Moment) (verbose : Bool)
    (history : List Action) :
    let session := (create demo clock verbose).actAll history
    let count : Int := session.demo.steps.length
    (∀ index, session.executeStep index = (.error .noSuchPlace, session) ↔
        index < -count ∨ count ≤ index) ∧
      (∀ index, -count ≤ index → index < 0 →
        (session.executeStep index).1 = (session.executeStep (count + index)).1 ∧
          (session.executeStep index).2.ledger =
            (session.executeStep (count + index)).2.ledger ∧
          ∀ tx, (session.executeStep index).1 = .ok (.committed tx) →
            (session.executeStep index).2.currentStep = index ∧
              index ∈ (session.executeStep index).2.executed) ∧
      (∀ index ∈ session.executed, -count ≤ index ∧ index < count ∧
        (index < 0 → .executeStep index ∈ history)) ∧
      session.executed.Nodup ∧ session.executed.length ≤ 2 * session.demo.steps.length ∧
      (session.executed = [] → session.currentStep = -1) ∧
      (session.executed ≠ [] → session.currentStep ∈ session.executed) ∧
      ((∀ index, .executeStep index ∈ history → 0 ≤ index) →
        (∀ index ∈ session.executed, 0 ≤ index ∧ index < count) ∧
          session.executed.length ≤ session.demo.steps.length ∧
          (session.currentStep = -1 ↔ session.executed = [])) := by
  intro session count
  obtain ⟨own, -⟩ := (onOwnTerms_create demo clock verbose).actAll history
  have booked : session.IsBooked := isBooked_actAll (isBooked_create demo clock verbose) history
  have records : session.RecordsPlaces (Action.executeStep · ∈ history) := by
    refine actAll_keeps_of_mem (P := RecordsPlaces (Action.executeStep · ∈ history)) ?_
      (recordsPlaces_cleared rfl rfl)
    intro session records action mem
    exact records.act fun index _ asked => asked ▸ mem
  have within : ∀ index ∈ session.executed, -count ≤ index ∧ index < count := by
    intro index mem
    have placed := (place?_eq_none_iff session.demo.steps).not.mp (records.placed index mem)
    omega
  have once : session.executed.Nodup := booked.executed ▸ booked.once
  have current : session.executed ≠ [] → session.currentStep ∈ session.executed := by
    intro executed
    rw [booked.executed] at executed ⊢
    obtain ⟨tx, recorded, -⟩ := booked.latest fun nothing => executed (by rw [nothing]; rfl)
    by_contra unknown
    rw [(Entries.get?_eq_none_iff _ _).mpr unknown] at recorded
    cases recorded
  refine ⟨?_, ?_, ?_, once, ?_, records.fresh, current, ?_⟩
  · intro index
    exact (own.executeStep_eq_iff index).trans (place?_eq_none_iff _)
  · intro index low negative
    have same := place?_add_length session.demo.steps low negative
    obtain ⟨answer, ledger, -⟩ := executeStep_alike same
    exact ⟨answer.symm, ledger.symm, fun tx => recorded_of_committed⟩
  · intro index mem
    exact ⟨(within index mem).1, (within index mem).2, records.below index mem⟩
  · have most := length_le_of_within once within
    omega
  · intro asked
    have upright : ∀ index ∈ session.executed, 0 ≤ index ∧ index < count := by
      intro index mem
      refine ⟨?_, (within index mem).2⟩
      by_contra negative
      exact negative (asked index (records.below index mem (Int.not_le.mp negative)))
    refine ⟨upright, ?_, ?_, records.fresh⟩
    · have most := length_le_of_within once upright
      omega
    · intro unset
      by_contra executed
      have low := (upright _ (current executed)).1
      omega

/-- A configuration of one step. -/
def brief : Data :=
  .object [("id", .text "x"), ("name", .text "X"),
    ("transactionSteps", .list [.object [("txType", .text "T"), ("label", .text "L"),
      ("description", .text ""),
      ("numscript", .text "send [USD/2 5] ( source = @world destination = @a )")]])]

/-- The step below the first is not refused: the last one is executed, and the session looks as
if it had executed nothing yet. -/
theorem executeStep_brief : ∃ demo, Demo.ofData brief = .ok demo ∧ demo.steps.length = 1 ∧
    ((create demo none false).executeStep (-1)).1.isOk = true ∧
    ((create demo none false).executeStep (-1)).2.executed = [-1] ∧
    ((create demo none false).executeStep (-1)).2.currentStep = -1 ∧
    ((create demo none false).executeStep (-1)).2.ledger.log.length = 1 :=
  ⟨_, rfl, rfl, by decide +kernel, by decide +kernel, by decide +kernel, by decide +kernel⟩

end Session

end DoubleEntry
