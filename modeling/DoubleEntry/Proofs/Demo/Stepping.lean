import DoubleEntry.Proofs.Demo.Bookkeeping
import DoubleEntry.Proofs.Execution.Refusals
import DoubleEntry.Proofs.Script.Bindable

/-!
# Steps that answer

Executing a step of a demo is answered with the transaction or with the reason why there is
none, whatever was done before and whatever the script says. Three things are not caught: a
variable with a value that nothing can be bound to, since any value is loaded; a placeholder for
a number that is too long to be written; and portions that exceed their total by so much that
this cannot be written.
-/

namespace DoubleEntry

/-! ## Steps -/

theorem place?_natCast {α : Type} (items : List α) (place : Nat) :
    place? items place = items[place]? := by
  have low : ¬(place : Int) < 0 := Int.not_lt.mpr (Int.natCast_nonneg place)
  rw [place?, if_neg low, if_neg low, Int.toNat_natCast]

namespace Session

variable {session : Session}

theorem OnOwnTerms.not_cannotReport (own : session.OnOwnTerms) :
    ¬session.ledger.cannotReport :=
  Ledger.not_cannotReport_of_named own.name

theorem executeStep_error_iff {index : Int} {step : Step} {fault : Fault}
    (placed : place? session.demo.steps index = some step) :
    (session.executeStep index).1 = .error fault ↔
      (session.ledger.run step.script session.demo.vars).1 = .error fault ∧
        fault.isLedgerFault = false := by
  have course := executeStep_course session index
  generalize session.executeStep index = result at course
  cases course with
  | absent nowhere =>
      rw [nowhere] at placed
      cases placed
  | committed there ran =>
      obtain rfl := Option.some.inj (there.symm.trans placed)
      rw [ran]
      exact iff_of_false nofun nofun
  | refused there ran known =>
      obtain rfl := Option.some.inj (there.symm.trans placed)
      rw [ran]
      refine iff_of_false nofun ?_
      rintro ⟨⟨rfl⟩, foreign⟩
      rw [known] at foreign
      cases foreign
  | raised there ran unknown =>
      obtain rfl := Option.some.inj (there.symm.trans placed)
      rw [ran]
      constructor
      · rintro ⟨rfl⟩
        exact ⟨rfl, Bool.eq_false_iff.mpr unknown⟩
      · rintro ⟨⟨rfl⟩, -⟩
        rfl

/-- Just what a session does not catch when it executes a step. -/
theorem executeStep_raises_iff (own : session.OnOwnTerms) {index : Int} {step : Step}
    (placed : place? session.demo.steps index = some step) :
    (∃ fault, (session.executeStep index).1 = .error fault) ↔
      (∃ entry ∈ session.demo.vars, entry.2.isBindable = false) ∨
        Placeholder.Unfillable session.demo.vars step.script ∨
        ∃ fault, (session.ledger.run step.script session.demo.vars).1 = .error fault ∧
          fault.IsUntold := by
  simp only [executeStep_error_iff placed]
  obtain ⟨bindable, bound⟩ | ⟨unbindable, fault, failed, foreign⟩ :=
    Variables.bind_cases session.demo.vars
  · rw [or_iff_right]
    · by_cases unfillable : Placeholder.Unfillable session.demo.vars step.script
      · refine iff_of_true ⟨.unwritable, ?_, rfl⟩ (Or.inl unfillable)
        rw [Ledger.run_unfillable unfillable]
      · have known : FailsOnly Fault.IsOfRun
            (session.ledger.run step.script session.demo.vars).1 :=
          Ledger.failsOnly_run own.not_cannotReport bound unfillable
        rw [or_iff_right unfillable]
        refine exists_congr fun fault => and_congr_right fun failed => ?_
        constructor
        · intro foreign
          exact (known fault failed).isUntold foreign
        · exact Fault.IsUntold.isLedgerFault_eq_false
    · rintro ⟨entry, mem, bad⟩
      rw [bindable entry mem] at bad
      cases bad
  · refine iff_of_true ⟨fault, ?_, foreign⟩ (Or.inl unbindable)
    rw [Ledger.run, Placeholder.substitute, failed]
    rfl

/-- In every state that a session comes to, executing a step of its demo is answered with the
transaction that it committed, and nothing is wrong; or it is answered with nothing, and the
message on what is wrong is kept. A fault is raised instead just when a variable of the demo
has a value that nothing can be bound to, or stands in the script for a number that is too long
to be written, or the portions of a send exceed its amount by more than can be written. -/
theorem executeStep_answers (demo : Demo) (clock : Option Moment) (verbose : Bool)
    (history : List Action) :
    let session := (create demo clock verbose).actAll history
    ∀ place : Fin session.demo.steps.length,
      let step := session.demo.steps[place]
      let answer := (session.executeStep place.val).1
      let after := (session.executeStep place.val).2
      ((∃ tx, answer = .ok (.committed tx) ∧ after.ledger.log = session.ledger.log ++ [tx] ∧
            after.error = none) ∨
          (∃ cause, answer = .ok (.refused cause) ∧ after.error = some cause.message) ∨
          ∃ fault, answer = .error fault) ∧
        ((∃ fault, answer = .error fault) ↔
          (∃ entry ∈ session.demo.vars, entry.2.isBindable = false) ∨
            Placeholder.Unfillable session.demo.vars step.script ∨
            ∃ fault, (session.ledger.run step.script session.demo.vars).1 = .error fault ∧
              fault.IsUntold) := by
  intro session place step answer after
  obtain ⟨own, -⟩ := (onOwnTerms_create demo clock verbose).actAll history
  have placed : place? session.demo.steps place.val = some step := by
    rw [place?_natCast]
    exact List.getElem?_eq_getElem place.isLt
  have booked : session.IsBooked := isBooked_actAll (isBooked_create demo clock verbose) history
  refine ⟨?_, executeStep_raises_iff own placed⟩
  subst answer after
  have course := executeStep_course session place.val
  generalize session.executeStep place.val = result at course ⊢
  cases course with
  | absent nowhere => exact Or.inr (Or.inr ⟨_, rfl⟩)
  | committed there ran => exact Or.inl ⟨_, rfl, (booked.numbered.run_ok ran).1, rfl⟩
  | refused there ran known => exact Or.inr (Or.inl ⟨_, rfl, rfl⟩)
  | raised there ran unknown => exact Or.inr (Or.inr ⟨_, rfl⟩)

/-- A demo with a truth value as a variable is loaded, and then its only step is not answered. -/
theorem executeStep_truthful : ∃ demo, Demo.ofData truthful = .ok demo ∧
    demo.steps.length = 1 ∧
    ((create demo none false).executeStep 0).1 = .error (.booleanVariable "v") :=
  ⟨_, rfl, rfl, rfl⟩

end Session

end DoubleEntry
