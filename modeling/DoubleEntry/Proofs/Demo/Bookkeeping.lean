import DoubleEntry.Proofs.Demo.Freshness
import DoubleEntry.Proofs.Execution.Atomicity
import DoubleEntry.Proofs.Ledger.Store

/-!
# The books of a session

A session records under the index of a step the transaction that the step made. Whatever is
done in it, its records agree with its ledger: scripts only add to the log, and a step is
recorded with the transaction that it added last.
-/

namespace DoubleEntry

namespace Ledger

variable {ledger after : Ledger} {text : Text} {vars : Variables} {tx : Transaction}

theorem IsNumbered.run (numbered : ledger.IsNumbered) :
    (ledger.run text vars).2.IsNumbered :=
  (run_moves ledger text vars).keep IsNumbered.move numbered

/-- A run adds to the log, whether it succeeds or not. -/
theorem log_run_prefix : ledger.log <+: (ledger.run text vars).2.log :=
  log_serve ledger (show Request.run text vars ≠ .reset from nofun)

/-- The transaction that a run answers with is the one that it came to commit. -/
theorem commits_of_run (ran : (ledger.run text vars).1 = .ok tx) :
    ∃ script after, ledger.Commits text vars script tx after := by
  have course := run_eq ledger text vars
  cases drafted : ledger.draft text vars with
  | error fault =>
      rw [course, drafted] at ran
      cases ran
  | ok result =>
      obtain ⟨script, proposal⟩ := result
      cases made : ledger.commit proposal with
      | error fault =>
          rw [course, drafted] at ran
          dsimp only [conclude] at ran
          rw [commitAloud, made] at ran
          cases ran
      | ok result =>
          obtain ⟨other, after⟩ := result
          have commits : ledger.Commits text vars script other after := ⟨proposal, drafted, made⟩
          by_cases silent : ledger.cannotReport
          · rw [run_silent commits silent] at ran
            cases ran
          · rw [run_annotated commits silent] at ran
            cases noted : (after.annotateAll script.accountNotes).1 with
            | error fault =>
                rw [noted] at ran
                cases ran
            | ok done =>
                rw [noted] at ran
                obtain rfl := Except.ok.inj ran
                exact ⟨script, after, commits⟩

theorem IsNumbered.id_lt (numbered : ledger.IsNumbered) (logged : tx ∈ ledger.log) :
    tx.id < ledger.nextId := by
  obtain ⟨place, found⟩ := List.mem_iff_getElem?.mp logged
  obtain ⟨inside, -⟩ := List.getElem?_eq_some_iff.mp found
  have number := numbered.place place tx found
  have next := numbered.next
  omega

/-- A run that answers with a transaction adds just this one to the log, under the next
number. -/
theorem IsNumbered.run_ok (numbered : ledger.IsNumbered)
    (ran : ledger.run text vars = (.ok tx, after)) :
    after.log = ledger.log ++ [tx] ∧ tx.id = ledger.nextId ∧
      after.nextId = ledger.nextId + 1 := by
  have answered : (ledger.run text vars).1 = .ok tx := by rw [ran]
  obtain ⟨script, committed, commits⟩ := commits_of_run answered
  have added := log_run commits
  have later : (ledger.run text vars).2.IsNumbered := numbered.run
  rw [ran] at added later
  change after.IsNumbered at later
  have last : after.log[ledger.log.length]? = some tx := by
    rw [added]
    exact List.getElem?_concat_length
  have id := later.place _ tx last
  have before := numbered.next
  have next := later.next
  rw [added, List.length_append, List.length_singleton] at next
  exact ⟨added, by omega, by omega⟩

end Ledger

namespace Session

/-! ## What executing a step comes to -/

/-- What executing a step comes to: the step is not there, or its script is run, and the
answer of the run is recorded, remembered or passed on. -/
inductive StepCourse (session : Session) (index : Int) : Except Fault StepOutcome × Session → Prop
  | absent (nowhere : place? session.demo.steps index = none) :
      StepCourse session index (.error .noSuchPlace, session)
  | committed {step : Step} {tx : Transaction} {ledger : Ledger}
      (placed : place? session.demo.steps index = some step)
      (ran : session.ledger.run step.script session.demo.vars = (.ok tx, ledger)) :
      StepCourse session index
        (.ok (.committed tx), ({ session with ledger }).recordStep index tx)
  | refused {step : Step} {cause : Fault} {ledger : Ledger}
      (placed : place? session.demo.steps index = some step)
      (ran : session.ledger.run step.script session.demo.vars = (.error cause, ledger))
      (known : cause.isLedgerFault = true) :
      StepCourse session index
        (.ok (.refused cause), { session with ledger, error := some cause.message })
  | raised {step : Step} {fault : Fault} {ledger : Ledger}
      (placed : place? session.demo.steps index = some step)
      (ran : session.ledger.run step.script session.demo.vars = (.error fault, ledger))
      (unknown : ¬fault.isLedgerFault = true) :
      StepCourse session index (.error fault, { session with ledger })

theorem executeStep_course (session : Session) (index : Int) :
    session.StepCourse index (session.executeStep index) := by
  unfold executeStep
  cases placed : place? session.demo.steps index with
  | none => exact .absent placed
  | some step =>
      dsimp only
      cases ran : session.ledger.run step.script session.demo.vars with
      | mk answer ledger =>
          cases answer with
          | ok tx => exact .committed placed ran
          | error fault =>
              dsimp only
              split <;> rename_i known
              · exact .refused placed ran known
              · exact .raised placed ran known

/-! ## Records that agree with the ledger -/

/-- Whether the records of a session agree with its ledger. -/
structure IsBooked (session : Session) : Prop where
  numbered : session.ledger.IsNumbered
  executed : session.executed = session.transactions.keys
  once : session.transactions.keys.Nodup
  logged : ∀ index tx, session.transactions.get? index = some tx → tx ∈ session.ledger.log
  apart : ∀ index other tx later, session.transactions.get? index = some tx →
    session.transactions.get? other = some later → index ≠ other → tx.id ≠ later.id
  latest : session.transactions ≠ [] → ∃ tx,
    session.transactions.get? session.currentStep = some tx ∧
      ∀ index other, session.transactions.get? index = some other → other.id ≤ tx.id

/-- Whether the ledger of a session and its records of steps are those of another one. -/
structure SameSteps (before after : Session) : Prop where
  ledger : after.ledger = before.ledger
  executed : after.executed = before.executed
  transactions : after.transactions = before.transactions
  currentStep : after.currentStep = before.currentStep
  error : after.error = before.error

theorem isBooked_cleared {session : Session} (numbered : session.ledger.IsNumbered)
    (executed : session.executed = []) (transactions : session.transactions = []) :
    session.IsBooked where
  numbered := numbered
  executed := by rw [executed, transactions]; rfl
  once := by rw [transactions]; exact List.nodup_nil
  logged := by rw [transactions]; exact nofun
  apart := by rw [transactions]; exact nofun
  latest := fun nonempty => absurd transactions nonempty

variable {session : Session}

/-- Records stay in agreement where the log only grows. -/
theorem IsBooked.grow {after : Session} (booked : session.IsBooked)
    (numbered : after.ledger.IsNumbered) (grown : session.ledger.log <+: after.ledger.log)
    (executed : after.executed = session.executed)
    (transactions : after.transactions = session.transactions)
    (currentStep : after.currentStep = session.currentStep) : after.IsBooked where
  numbered := numbered
  executed := by rw [executed, transactions]; exact booked.executed
  once := by rw [transactions]; exact booked.once
  logged := by
    rw [transactions]
    exact fun index tx found => grown.subset (booked.logged index tx found)
  apart := by rw [transactions]; exact booked.apart
  latest := by rw [transactions, currentStep]; exact booked.latest

/-- A step is recorded in agreement with the ledger when its transaction is the last of the
log. -/
theorem IsBooked.record {ledger : Ledger} {tx : Transaction} (booked : session.IsBooked)
    (numbered : ledger.IsNumbered) (added : ledger.log = session.ledger.log ++ [tx])
    (newest : tx.id = session.ledger.nextId) (index : Int) :
    (({ session with ledger } : Session).recordStep index tx).IsBooked := by
  -- A step can be executed again, so its old record goes; all that stay have smaller numbers.
  have older {other : Int} {found : Transaction}
      (recorded : session.transactions.get? other = some found) : found.id < tx.id := by
    rw [newest]
    exact booked.numbered.id_lt (booked.logged other found recorded)
  exact {
    numbered := numbered
    executed := by
      change (if session.executed.contains index then session.executed
        else session.executed ++ [index]) = (session.transactions.put index tx).keys
      rw [Entries.keys_put, booked.executed]
      simp only [List.contains_iff_mem]
    once := Entries.nodup_keys_put booked.once index tx
    logged := by
      intro other found recorded
      rw [recordStep, Entries.get?_put] at recorded
      change found ∈ ledger.log
      rw [added]
      split at recorded
      · obtain rfl := Option.some.inj recorded
        exact List.mem_append_right _ List.mem_cons_self
      · exact List.mem_append_left _ (booked.logged other found recorded)
    apart := by
      intro one other found later here there different
      rw [recordStep, Entries.get?_put] at here there
      split at here <;> rename_i first
      · obtain rfl := Option.some.inj here
        rw [if_neg (first ▸ different)] at there
        exact (ne_of_lt (older there)).symm
      · split at there
        · obtain rfl := Option.some.inj there
          exact ne_of_lt (older here)
        · exact booked.apart one other found later here there different
    latest := by
      intro _
      refine ⟨tx, Entries.get?_put_self _ _ _, ?_⟩
      intro other found recorded
      rw [recordStep, Entries.get?_put] at recorded
      split at recorded
      · obtain rfl := Option.some.inj recorded
        exact le_refl _
      · exact le_of_lt (older recorded) }

theorem IsBooked.executeStep (booked : session.IsBooked) (index : Int) :
    (session.executeStep index).2.IsBooked := by
  have run {answer : Except Fault Transaction} {ledger : Ledger} {step : Step}
      (ran : session.ledger.run step.script session.demo.vars = (answer, ledger)) :
      ledger.IsNumbered ∧ session.ledger.log <+: ledger.log := by
    have left : (session.ledger.run step.script session.demo.vars).2 = ledger := by rw [ran]
    rw [← left]
    exact ⟨booked.numbered.run, Ledger.log_run_prefix⟩
  have course := executeStep_course session index
  generalize session.executeStep index = result at course ⊢
  cases course with
  | absent nowhere => exact booked
  | committed placed ran =>
      obtain ⟨added, newest, -⟩ := booked.numbered.run_ok ran
      exact booked.record (run ran).1 added newest index
  | refused placed ran known => exact booked.grow (run ran).1 (run ran).2 rfl rfl rfl
  | raised placed ran unknown => exact booked.grow (run ran).1 (run ran).2 rfl rfl rfl

theorem sameSteps_runQuery (session : Session) (query : Query) :
    session.SameSteps (session.act (.runQuery query)).2 := by
  unfold act
  dsimp only
  cases answered : session.runQuery query with
  | error fault => exact ⟨rfl, rfl, rfl, rfl, rfl⟩
  | ok found =>
      obtain ⟨rows, -, last⟩ := bind_eq_ok.mp answered
      obtain rfl := Except.ok.inj last
      exact ⟨rfl, rfl, rfl, rfl, rfl⟩

theorem isBooked_create (demo : Demo) (clock : Option Moment) (verbose : Bool) :
    (create demo clock verbose).IsBooked :=
  isBooked_cleared (Ledger.isNumbered_cleared _) rfl rfl

/-- No action brings the records and the ledger out of agreement. -/
theorem IsBooked.act (booked : session.IsBooked) (action : Action) :
    (session.act action).2.IsBooked := by
  cases action with
  | executeStep index => exact booked.executeStep index
  | executeAll => exact executeSteps_keeps IsBooked.executeStep booked _
  | runQuery query =>
      obtain ⟨ledger, executed, transactions, currentStep, -⟩ := sameSteps_runQuery session query
      apply booked.grow _ _ executed transactions currentStep
      · rw [ledger]
        exact booked.numbered
      · exact ledger ▸ List.prefix_refl _
  | reset => exact isBooked_cleared (Ledger.isNumbered_cleared _) rfl rfl
  | switchDemo demo => exact isBooked_create _ _ _

theorem isBooked_actAll (booked : session.IsBooked) (history : List Action) :
    (session.actAll history).IsBooked :=
  actAll_keeps IsBooked.act booked history

/-! ## All steps in order -/

/-- The session behind a row of steps, each executed whatever came of those before it. -/
def behind (session : Session) (indexes : List Int) : Session :=
  indexes.foldl (fun session index => (session.executeStep index).2) session

/-- Whether transactions are those of the steps of a row that succeed one after the other, up
to the first that does not. -/
structure IsLongest (session : Session) (indexes : List Int) (txs : List Transaction) : Prop where
  within : txs.length ≤ indexes.length
  made : ∀ (place : Nat) (index : Int) (tx : Transaction),
    indexes[place]? = some index → txs[place]? = some tx →
      ((session.behind (indexes.take place)).executeStep index).1 = .ok (.committed tx)
  ended : ∀ index, indexes[txs.length]? = some index → ∀ tx,
    ((session.behind (indexes.take txs.length)).executeStep index).1 ≠ .ok (.committed tx)

/-- The transactions of the steps of a row that succeed one after the other. -/
def succeeding (session : Session) : List Int → List Transaction
  | [] => []
  | index :: rest =>
    match session.executeStep index with
    | (.ok (.committed tx), after) => tx :: after.succeeding rest
    | _ => []

/-- A step that succeeds is followed by those that succeed behind it. -/
theorem succeeding_committed {index : Int} {rest : List Int} {tx : Transaction} {after : Session}
    (executed : session.executeStep index = (.ok (.committed tx), after)) :
    session.succeeding (index :: rest) = tx :: after.succeeding rest := by
  rw [succeeding, executed]

theorem succeeding_stopped {index : Int} {rest : List Int}
    (stopped : ∀ tx, (session.executeStep index).1 ≠ .ok (.committed tx)) :
    session.succeeding (index :: rest) = [] := by
  unfold succeeding
  split
  · next tx after executed => exact absurd (congrArg Prod.fst executed) (stopped tx)
  · rfl

theorem behind_cons (index : Int) (rest : List Int) :
    session.behind (index :: rest) = (session.executeStep index).2.behind rest := rfl

theorem isLongest_succeeding (session : Session) (indexes : List Int) :
    session.IsLongest indexes (session.succeeding indexes) := by
  induction indexes generalizing session with
  | nil => exact ⟨le_refl _, nofun, nofun⟩
  | cons index rest ih =>
      by_cases stopped : ∀ tx, (session.executeStep index).1 ≠ .ok (.committed tx)
      · rw [succeeding_stopped stopped]
        refine ⟨Nat.zero_le _, nofun, ?_⟩
        intro first here tx
        obtain rfl := Option.some.inj here
        exact stopped tx
      · obtain ⟨tx, answered⟩ := not_forall_not.mp stopped
        have executed : session.executeStep index =
            (.ok (.committed tx), (session.executeStep index).2) := Prod.ext answered rfl
        rw [succeeding_committed executed]
        have later := ih (session.executeStep index).2
        refine ⟨Nat.succ_le_succ later.within, ?_, ?_⟩
        · intro place other found listed there
          cases place with
          | zero =>
              obtain rfl := Option.some.inj listed
              obtain rfl := Option.some.inj there
              exact answered
          | succ place => exact later.made place other found listed there
        · intro other listed
          exact later.ended other listed

/-- Executing steps in order answers with the transactions of those that succeed one after the
other; where the first that does not succeed raises a fault, this fault is raised. -/
theorem executeSteps_succeeding (session : Session) (indexes : List Int) :
    (∀ outcomes, (session.executeSteps indexes).1 = .ok outcomes →
        outcomes.filterMap StepOutcome.transaction? = session.succeeding indexes) ∧
      ∀ fault, (session.executeSteps indexes).1 = .error fault ↔
        ∃ index, indexes[(session.succeeding indexes).length]? = some index ∧
          ((session.behind (indexes.take (session.succeeding indexes).length)).executeStep
            index).1 = .error fault := by
  -- Along the row: behind a step that succeeds the rest is executed in the session it left.
  induction indexes generalizing session with
  | nil =>
      constructor
      · intro outcomes done
        obtain rfl := Except.ok.inj done
        rfl
      · intro fault
        exact ⟨nofun, fun ⟨_, listed, _⟩ => nomatch listed⟩
  | cons index rest ih =>
      cases executed : session.executeStep index with
      | mk answer after =>
          have answered : (session.executeStep index).1 = answer := by rw [executed]
          match answer with
          | .error cause =>
              have raised : (session.executeSteps (index :: rest)).1 = .error cause := by
                rw [executeSteps, executed]
              rw [succeeding_stopped (by rw [answered]; exact nofun), raised]
              refine ⟨nofun, fun fault => ?_⟩
              constructor
              · rintro ⟨rfl⟩
                exact ⟨index, rfl, answered⟩
              · rintro ⟨_, ⟨rfl⟩, there⟩
                obtain rfl := Except.error.inj (answered.symm.trans there)
                rfl
          | .ok (.refused cause) =>
              have refused : (session.executeSteps (index :: rest)).1 = .ok [.refused cause] := by
                rw [executeSteps, executed]
              rw [succeeding_stopped (by rw [answered]; exact nofun), refused]
              constructor
              · rintro _ ⟨rfl⟩
                rfl
              · intro fault
                refine ⟨nofun, ?_⟩
                rintro ⟨_, ⟨rfl⟩, there⟩
                cases answered.symm.trans there
          | .ok (.committed tx) =>
              have made : (session.executeSteps (index :: rest)).1 =
                  (after.executeSteps rest).1.map (StepOutcome.committed tx :: ·) := by
                rw [executeSteps, executed]
              obtain ⟨found, failed⟩ := ih after
              rw [succeeding_committed executed, made]
              constructor
              · intro outcomes done
                cases later : (after.executeSteps rest).1 with
                | error fault =>
                    rw [later] at done
                    cases done
                | ok others =>
                    rw [later] at done
                    obtain rfl := Except.ok.inj done
                    exact congrArg (tx :: ·) (found others later)
              · intro fault
                rw [List.length_cons, List.getElem?_cons_succ, List.take_succ_cons, behind_cons,
                  executed, ← failed fault]
                cases (after.executeSteps rest).1 with
                | error cause => rfl
                | ok others => exact ⟨nofun, nofun⟩

/-- Steps that succeed one after the other take the next numbers in order. -/
theorem id_succeeding (numbered : session.ledger.IsNumbered) (indexes : List Int) {place : Nat}
    {tx : Transaction} (found : (session.succeeding indexes)[place]? = some tx) :
    tx.id = session.ledger.nextId + place := by
  induction indexes generalizing session place with
  | nil => cases found
  | cons index rest ih =>
      have course := executeStep_course session index
      cases executed : session.executeStep index with
      | mk answer after =>
          rw [executed] at course
          cases course with
          | absent nowhere =>
              rw [succeeding, executed] at found
              cases found
          | refused placed ran known =>
              rw [succeeding, executed] at found
              cases found
          | raised placed ran unknown =>
              rw [succeeding, executed] at found
              cases found
          | @committed step made ledger placed ran =>
              obtain ⟨-, newest, next⟩ := numbered.run_ok ran
              rw [succeeding_committed executed] at found
              cases place with
              | zero =>
                  obtain rfl := Option.some.inj found
                  omega
              | succ place =>
                  have kept : (session.ledger.run step.script session.demo.vars).2.IsNumbered :=
                    numbered.run
                  rw [ran] at kept
                  have id : tx.id = ledger.nextId + place := ih kept found
                  omega

/-- The indexes of all steps in order. -/
def stepIndexes (session : Session) : List Int :=
  (List.range session.demo.steps.length).map Int.ofNat

/-- Whatever was done in a session, its records agree with its ledger. Just the steps that
are recorded count as executed; each is recorded with the transaction that the ledger has under
its number, and no two with the same; the latest step is recorded, with the largest number.
A query changes none of this. Executing all steps answers with the transactions of those that
succeed one after the other, which have consecutive numbers, unless the first that does not
succeed raises a fault. -/
theorem books_agree (demo : Demo) (clock : Option Moment) (verbose : Bool)
    (history : List Action) :
    let session := (create demo clock verbose).actAll history
    session.executed = session.transactions.keys ∧ session.executed.Nodup ∧
      (∀ index tx, session.transactions.get? index = some tx →
        session.ledger.transaction? tx.id = some tx) ∧
      (∀ index other tx later, session.transactions.get? index = some tx →
        session.transactions.get? other = some later → index ≠ other → tx.id ≠ later.id) ∧
      (session.transactions ≠ [] → ∃ tx,
        session.transactions.get? session.currentStep = some tx ∧
          ∀ index other, session.transactions.get? index = some other → other.id ≤ tx.id) ∧
      (∀ query, session.SameSteps (session.act (.runQuery query)).2) ∧
      ∃ txs, session.IsLongest session.stepIndexes txs ∧
        (∀ (place : Nat) (tx : Transaction), txs[place]? = some tx →
          tx.id = session.ledger.nextId + place) ∧
        (∀ outcomes, session.executeAll.1 = .ok outcomes →
          outcomes.filterMap StepOutcome.transaction? = txs) ∧
        ∀ fault, session.executeAll.1 = .error fault ↔
          ∃ index, session.stepIndexes[txs.length]? = some index ∧
            ((session.behind (session.stepIndexes.take txs.length)).executeStep index).1 =
              .error fault := by
  intro session
  have booked : session.IsBooked := isBooked_actAll (isBooked_create demo clock verbose) history
  obtain ⟨answered, raised⟩ := executeSteps_succeeding session session.stepIndexes
  refine ⟨booked.executed, booked.executed ▸ booked.once, ?_, booked.apart, booked.latest,
    sameSteps_runQuery session, session.succeeding session.stepIndexes,
    isLongest_succeeding session _, ?_, answered, raised⟩
  · intro index tx recorded
    exact (Ledger.transaction?_eq_some_iff booked.numbered tx.id tx).mpr
      ⟨booked.logged index tx recorded, rfl⟩
  · intro place tx found
    exact id_succeeding booked.numbered _ found

/-- A configuration whose only variable is a truth value. -/
def truthful : Data :=
  .object [("id", .text "x"), ("name", .text "X"), ("variables", .object [("v", .bool true)]),
    ("transactionSteps", .list [.object [("txType", .text "T"), ("label", .text "L"),
      ("description", .text ""),
      ("numscript", .text "send [USD/2 5] ( source = @world destination = @a )")]])]

/-- It is loaded, but executing all steps of its demo gives no transactions, not even none. -/
theorem executeAll_truthful :
    ∃ demo, Demo.ofData truthful = .ok demo ∧
      (create demo none false).executeAll.1 = .error (.booleanVariable "v") := by
  exact ⟨_, rfl, rfl⟩

end Session

end DoubleEntry
