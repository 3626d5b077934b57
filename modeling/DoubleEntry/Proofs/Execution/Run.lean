import DoubleEntry.Execution.Run
import DoubleEntry.Proofs.Except

/-!
# The course of a run

A run works out a draft, which touches nothing, and then concludes it: the proposal is
committed and the notes on accounts are written.
-/

namespace DoubleEntry.Ledger

/-- The script that a text means with given variables, and what the script proposes. -/
def draft (ledger : Ledger) (text : Text) (vars : Variables) :
    Except Fault (Script × Proposal) := do
  let filled ← Placeholder.substitute vars text
  let proposal ← ledger.propose (Script.ofText filled)
  return (Script.ofText filled, proposal)

/-- Commit what a script proposes and write its notes on accounts. -/
def conclude (ledger : Ledger) (script : Script) (proposal : Proposal) :
    Except Fault Transaction × Ledger :=
  match ledger.commitAloud proposal with
  | (.error fault, after) => (.error fault, after)
  | (.ok tx, committed) =>
    let (outcome, annotated) := committed.annotateAll script.accountNotes
    (outcome.map fun _ => tx, annotated)

/-- A draft is the script of the text that is filled in, with what it proposes. -/
theorem draft_eq_ok {ledger : Ledger} {text : Text} {vars : Variables} {script : Script}
    {proposal : Proposal} :
    ledger.draft text vars = .ok (script, proposal) ↔
      ∃ filled, Placeholder.substitute vars text = .ok filled ∧ script = Script.ofText filled ∧
        ledger.propose script = .ok proposal := by
  unfold draft
  rw [bind_eq_ok]
  refine exists_congr fun filled => and_congr_right fun _ => ?_
  rw [bind_eq_ok]
  constructor
  · rintro ⟨made, proposed, joined⟩
    obtain ⟨rfl, rfl⟩ := Prod.mk.inj (Except.ok.inj joined)
    exact ⟨rfl, proposed⟩
  · rintro ⟨rfl, proposed⟩
    exact ⟨proposal, proposed, rfl⟩

/-- What is left behind a conclusion is what the commit left, with notes written on it. -/
theorem conclude_annotates (ledger : Ledger) (script : Script) (proposal : Proposal) :
    ∃ notes, (ledger.conclude script proposal).2 =
      ((ledger.commitAloud proposal).2.annotateAll notes).2 := by
  unfold conclude
  cases ledger.commitAloud proposal with
  | mk answer after =>
      cases answer with
      | error fault => exact ⟨[], rfl⟩
      | ok tx => exact ⟨script.accountNotes, rfl⟩

/-- A run changes nothing before its draft is worked out. -/
theorem run_eq (ledger : Ledger) (text : Text) (vars : Variables) :
    ledger.run text vars =
      match ledger.draft text vars with
      | .error fault => (.error fault, ledger)
      | .ok (script, proposal) => ledger.conclude script proposal := by
  unfold run draft
  cases Placeholder.substitute vars text with
  | error fault => rfl
  | ok filled =>
      simp only [runScript, conclude, bind, Except.bind]
      cases ledger.propose (Script.ofText filled) <;> rfl

end DoubleEntry.Ledger
