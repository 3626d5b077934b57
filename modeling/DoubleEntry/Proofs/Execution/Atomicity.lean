import DoubleEntry.Demo.Session
import DoubleEntry.Proofs.Execution.Refusals

/-!
# How far runs are atomic

A run that fails before its transaction is committed changes nothing. A run can also
fail behind its commit, since notes on accounts are written last: when one of them is
for a reference that is still a variable, the transaction stands, and so do the notes
before this one.
-/

namespace DoubleEntry

/-! ## Behind the commit -/

/-- Whether a script notes something on what is still a variable. -/
def Script.notesVariable (script : Script) : Prop :=
  ∃ note ∈ script.accountNotes, isVariable note.1

namespace Ledger

/-- A run comes to commit the transaction of its script. -/
def Commits (ledger : Ledger) (text : Text) (vars : Variables) (script : Script)
    (tx : Transaction) (after : Ledger) : Prop :=
  ∃ proposal, ledger.draft text vars = .ok (script, proposal) ∧
    ledger.commit proposal = .ok (tx, after)

/-- A run that does not come to its commit changes nothing. -/
theorem run_unchanged {ledger : Ledger} {text : Text} {vars : Variables}
    (h : ¬∃ script tx after, ledger.Commits text vars script tx after) :
    (ledger.run text vars).2 = ledger := by
  rw [run_eq]
  cases drafted : ledger.draft text vars with
  | error fault => rfl
  | ok result =>
      obtain ⟨script, proposal⟩ := result
      dsimp only [conclude]
      cases made : ledger.commit proposal with
      | error fault => rw [commitAloud, made]
      | ok result => exact absurd ⟨script, result.1, result.2, proposal, drafted, made⟩ h

section Committed

variable {ledger : Ledger} {text : Text} {vars : Variables} {script : Script}
  {tx : Transaction} {after : Ledger} (commits : ledger.Commits text vars script tx after)
include commits

/-- What follows a commit leaves the transaction in the log. -/
theorem log_run : (ledger.run text vars).2.log = ledger.log ++ [tx] := by
  obtain ⟨proposal, drafted, made⟩ := commits
  have logged : after.log = ledger.log ++ [tx] := by rw [commit_frame made]
  obtain ⟨notes, left⟩ := conclude_annotates ledger script proposal
  rw [run_eq, drafted]
  dsimp only
  rw [left, log_annotateAll, commitAloud, made]
  exact logged

theorem run_changed : (ledger.run text vars).2 ≠ ledger := by
  intro same
  have grown := log_run commits
  rw [same] at grown
  exact List.cons_ne_nil tx [] (List.self_eq_append_right.mp grown)

theorem run_silent (silent : ledger.cannotReport) :
    (ledger.run text vars).1 = .error .wrongKind := by
  obtain ⟨proposal, drafted, made⟩ := commits
  rw [run_eq, drafted]
  dsimp only [conclude]
  rw [(commitAloud_draft drafted made).1 silent]

theorem run_annotated (aloud : ¬ledger.cannotReport) :
    (ledger.run text vars).1 = (after.annotateAll script.accountNotes).1.map fun _ => tx := by
  obtain ⟨proposal, drafted, made⟩ := commits
  rw [run_eq, drafted]
  dsimp only [conclude]
  rw [(commitAloud_draft drafted made).2 aloud]

end Committed

/-- A run fails and still changes the ledger just when it comes to its commit and then
cannot report it, or its script notes something on what is still a variable. -/
theorem run_error_changed_iff {ledger : Ledger} {text : Text} {vars : Variables} :
    ((∃ fault, (ledger.run text vars).1 = .error fault) ∧ (ledger.run text vars).2 ≠ ledger) ↔
      ∃ script tx after, ledger.Commits text vars script tx after ∧
        (ledger.cannotReport ∨ script.notesVariable) := by
  constructor
  · rintro ⟨⟨fault, failed⟩, changed⟩
    obtain ⟨script, tx, after, commits⟩ := not_not.mp (mt run_unchanged changed)
    refine ⟨script, tx, after, commits, ?_⟩
    by_contra neither
    rw [not_or] at neither
    rw [run_annotated commits neither.1, annotateAll_addresses after neither.2] at failed
    cases failed
  · rintro ⟨script, tx, after, commits, late⟩
    refine ⟨?_, run_changed commits⟩
    by_cases silent : ledger.cannotReport
    · exact ⟨_, run_silent commits silent⟩
    · obtain ⟨reference, found⟩ := annotateAll_variable after (late.resolve_left silent)
      refine ⟨.unbound reference, ?_⟩
      rw [run_annotated commits silent, found]
      rfl

end Ledger

/-! ## Steps of a session -/

namespace Session

variable {session : Session} {index : Int}

theorem executeStep_eq {step : Step} (h : place? session.demo.steps index = some step) :
    (session.executeStep index).2.ledger =
        (session.ledger.run step.script session.demo.vars).2 ∧
      ∀ cause, (session.executeStep index).1 = .ok (.refused cause) ↔
        (session.ledger.run step.script session.demo.vars).1 = .error cause ∧
          cause.isLedgerFault = true := by
  unfold executeStep
  rw [h]
  dsimp only
  cases session.ledger.run step.script session.demo.vars with
  | mk answer ledger =>
      cases answer with
      | ok tx => simp [recordStep]
      | error fault =>
          by_cases known : fault.isLedgerFault = true
          · simp only [known, if_true, true_and]
            intro cause
            constructor
            · rintro ⟨⟩
              exact ⟨rfl, known⟩
            · rintro ⟨⟨⟩, -⟩
              rfl
          · simp only [known, Bool.false_eq_true, if_false, true_and]
            intro cause
            constructor
            · rintro ⟨⟩
            · rintro ⟨⟨⟩, also⟩
              exact absurd also known

/-- A step is refused and still changes the ledger just when its script comes to its
commit and notes something on what is still a variable. -/
theorem executeStep_refused_changed_iff :
    ((∃ cause, (session.executeStep index).1 = .ok (.refused cause)) ∧
        (session.executeStep index).2.ledger ≠ session.ledger) ↔
      ∃ step script tx after, place? session.demo.steps index = some step ∧
        session.ledger.Commits step.script session.demo.vars script tx after ∧
        ¬session.ledger.cannotReport ∧ script.notesVariable := by
  constructor
  · rintro ⟨⟨cause, refused⟩, changed⟩
    cases placed : place? session.demo.steps index with
    | none =>
        rw [executeStep, placed] at refused
        cases refused
    | some step =>
        obtain ⟨left, answered⟩ := executeStep_eq placed
        obtain ⟨failed, known⟩ := (answered cause).mp refused
        rw [left] at changed
        obtain ⟨script, tx, after, commits, late⟩ :=
          Ledger.run_error_changed_iff.mp ⟨⟨cause, failed⟩, changed⟩
        have aloud : ¬session.ledger.cannotReport := by
          intro silent
          rw [Ledger.run_silent commits silent] at failed
          cases failed
          exact absurd known (by decide)
        exact ⟨step, script, tx, after, rfl, commits, aloud, late.resolve_left aloud⟩
  · rintro ⟨step, script, tx, after, placed, commits, aloud, noted⟩
    obtain ⟨left, answered⟩ := executeStep_eq placed
    obtain ⟨reference, found⟩ := Ledger.annotateAll_variable after noted
    constructor
    · refine ⟨.unbound reference, (answered _).mpr ⟨?_, rfl⟩⟩
      rw [Ledger.run_annotated commits aloud, found]
      rfl
    · rw [left]
      exact Ledger.run_changed commits

end Session

namespace Ledger

/-- A run is atomic unless its transaction is committed and then either cannot be reported
or is followed by a note on what is still a variable. Only the latter can befall a step
that a session refuses. -/
theorem run_atomic_iff (ledger : Ledger) (text : Text) (vars : Variables) (session : Session)
    (index : Int) :
    ((∀ fault, (ledger.run text vars).1 = .error fault → (ledger.run text vars).2 = ledger) ↔
      ¬∃ script tx after, ledger.Commits text vars script tx after ∧
        (ledger.cannotReport ∨ script.notesVariable)) ∧
    ((∀ cause, (session.executeStep index).1 = .ok (.refused cause) →
        (session.executeStep index).2.ledger = session.ledger) ↔
      ¬∃ step script tx after, place? session.demo.steps index = some step ∧
        session.ledger.Commits step.script session.demo.vars script tx after ∧
        ¬session.ledger.cannotReport ∧ script.notesVariable) := by
  constructor
  · rw [← run_error_changed_iff, not_and, not_not, forall_exists_index]
  · rw [← Session.executeStep_refused_changed_iff, not_and, not_not, forall_exists_index]

/-- A script whose note is for a variable that nothing is given for. -/
def noteOnVariable : Text :=
  "send [USD/2 100] ( source = @world destination = @a )\nset_account_meta($x, \"k\", \"v\")"

/-- Runs are not atomic: this one fails at its note and leaves its transaction behind. -/
theorem run_not_atomic :
    ¬∀ (ledger : Ledger) (text : Text) (vars : Variables) (fault : Fault),
      (ledger.run text vars).1 = .error fault → (ledger.run text vars).2 = ledger := by
  intro atomic
  have failed : ((create (.text "main") none false).run noteOnVariable []).1.toOption = none := by
    decide +kernel
  have grown : ((create (.text "main") none false).run noteOnVariable []).2.nextId = 2 := by
    decide +kernel
  cases outcome : ((create (.text "main") none false).run noteOnVariable []).1 with
  | ok tx =>
      rw [outcome] at failed
      cases failed
  | error fault =>
      rw [atomic _ noteOnVariable [] fault outcome] at grown
      exact absurd grown (by decide)

end Ledger

end DoubleEntry
