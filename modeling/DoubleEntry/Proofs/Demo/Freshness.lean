import DoubleEntry.Demo.Session
import DoubleEntry.Proofs.Ledger.Requests

/-!
# Beginning again

A session that is emptied, or that turns to another demo, goes on like a session that was
just created: what was done before shows in no later reply and in no later state.
-/

namespace DoubleEntry

namespace Ledger

/-! ## The terms of a ledger -/

/-- Whether a ledger still has the name, the loudness and the clock that another one has. -/
structure SameTerms (before after : Ledger) : Prop where
  name : after.name = before.name
  verbose : after.verbose = before.verbose
  clock : after.clock = before.clock

variable {ledger : Ledger}

theorem SameTerms.refl (ledger : Ledger) : ledger.SameTerms ledger := ⟨rfl, rfl, rfl⟩

theorem SameTerms.trans {mid after : Ledger} (first : ledger.SameTerms mid)
    (second : mid.SameTerms after) : ledger.SameTerms after where
  name := second.name.trans first.name
  verbose := second.verbose.trans first.verbose
  clock := second.clock.trans first.clock

variable (ledger)

theorem sameTerms_annotateAll (notes : List (Text × Text × Text)) :
    ledger.SameTerms (ledger.annotateAll notes).2 := by
  rw [annotateAll_frame]
  exact ⟨rfl, rfl, rfl⟩

theorem sameTerms_commitAloud (proposal : Proposal) :
    ledger.SameTerms (ledger.commitAloud proposal).2 := by
  cases made : ledger.commit proposal with
  | error fault =>
      rw [commitAloud_error ledger made]
      exact SameTerms.refl ledger
  | ok result =>
      rw [commitAloud_ok ledger made, commit_frame made]
      exact ⟨rfl, rfl, rfl⟩

/-- No run of a script changes the terms of a ledger, whether it succeeds or not. -/
theorem sameTerms_run (text : Text) (vars : Variables) :
    ledger.SameTerms (ledger.run text vars).2 := by
  rw [run_eq]
  cases ledger.draft text vars with
  | error fault => exact SameTerms.refl ledger
  | ok drafted =>
      obtain ⟨script, proposal⟩ := drafted
      obtain ⟨notes, left⟩ := conclude_annotates ledger script proposal
      dsimp only
      rw [left]
      exact (sameTerms_commitAloud ledger proposal).trans (sameTerms_annotateAll _ notes)

theorem sameTerms_reset : ledger.SameTerms ledger.reset := by
  unfold reset cleared
  rw [openAccount_frame]
  exact ⟨rfl, rfl, rfl⟩

variable {ledger}

/-- Nothing but its terms is left of a ledger that is emptied. -/
theorem SameTerms.reset_eq {after : Ledger} (same : ledger.SameTerms after) :
    after.reset = ledger.reset := by
  obtain ⟨name, verbose, clock⟩ := same
  unfold reset cleared
  rw [name, verbose, clock]

end Ledger

/-! ## Actions -/

/-- What a session is asked to do. -/
inductive Action where
  | executeStep (index : Int)
  | executeAll
  | runQuery (query : Query)
  | reset
  | switchDemo (demo : Demo)

namespace Action

/-- The demo that a session is in behind a row of actions. -/
def currentDemo (demo : Demo) : List Action → Demo
  | [] => demo
  | .switchDemo other :: rest => currentDemo other rest
  | _ :: rest => currentDemo demo rest

end Action

/-- What comes back from an action. -/
inductive Reply where
  | step (outcome : Except Fault StepOutcome)
  | steps (outcome : Except Fault (List StepOutcome))
  | result (outcome : Except Fault QueryResult)
  | nothing

namespace Session

/-- The reply to an action and the session behind it. A query that fails leaves the session
as it was. -/
def act (session : Session) : Action → Reply × Session
  | .executeStep index => (session.executeStep index).map .step id
  | .executeAll => session.executeAll.map .steps id
  | .runQuery query =>
    match session.runQuery query with
    | .ok (result, after) => (.result (.ok result), after)
    | .error fault => (.result (.error fault), session)
  | .reset => (.nothing, session.reset)
  | .switchDemo demo => (.nothing, session.switchDemo demo)

/-- The replies to a row of actions, each with the session behind it. -/
def course (session : Session) : List Action → List (Reply × Session)
  | [] => []
  | action :: rest => session.act action :: (session.act action).2.course rest

/-- The session behind a row of actions. -/
def actAll (session : Session) (actions : List Action) : Session :=
  actions.foldl (fun session action => (session.act action).2) session

/-! ## What actions keep -/

/-- Whether a session is in the demo of another one and on the same terms. -/
structure SamePlan (before after : Session) : Prop where
  demo : after.demo = before.demo
  verbose : after.verbose = before.verbose
  initialClock : after.initialClock = before.initialClock
  ledger : before.ledger.SameTerms after.ledger

variable {session : Session}

theorem SamePlan.refl (session : Session) : session.SamePlan session :=
  ⟨rfl, rfl, rfl, Ledger.SameTerms.refl _⟩

theorem SamePlan.trans {mid after : Session} (first : session.SamePlan mid)
    (second : mid.SamePlan after) : session.SamePlan after where
  demo := second.demo.trans first.demo
  verbose := second.verbose.trans first.verbose
  initialClock := second.initialClock.trans first.initialClock
  ledger := first.ledger.trans second.ledger

/-- What the steps of a row keep is kept by all of them in order, wherever these stop. -/
theorem executeSteps_keeps_of_mem {P : Session → Prop} {indexes : List Int}
    (kept : ∀ {session : Session}, P session → ∀ index ∈ indexes,
      P (session.executeStep index).2)
    (h : P session) : P (session.executeSteps indexes).2 := by
  induction indexes generalizing session with
  | nil => exact h
  | cons index rest ih =>
      have here := kept h index List.mem_cons_self
      unfold executeSteps
      cases executed : session.executeStep index with
      | mk answer after =>
          rw [executed] at here
          match answer with
          | .error fault => exact here
          | .ok (.refused cause) => exact here
          | .ok (.committed tx) =>
              exact ih (fun h other mem => kept h other (List.mem_cons_of_mem _ mem)) here

/-- What single steps keep is kept by all steps in order, wherever these stop. -/
theorem executeSteps_keeps {P : Session → Prop}
    (kept : ∀ {session : Session}, P session → ∀ index, P (session.executeStep index).2)
    (h : P session) (indexes : List Int) : P (session.executeSteps indexes).2 :=
  executeSteps_keeps_of_mem (fun h index _ => kept h index) h

/-- What the actions of a row keep is kept by the row. -/
theorem actAll_keeps_of_mem {P : Session → Prop} {history : List Action}
    (kept : ∀ {session : Session}, P session → ∀ action ∈ history, P (session.act action).2)
    (h : P session) : P (session.actAll history) := by
  induction history generalizing session with
  | nil => exact h
  | cons action rest ih =>
      exact ih (fun h other mem => kept h other (List.mem_cons_of_mem _ mem))
        (kept h action List.mem_cons_self)

/-- What single actions keep is kept by a row of them. -/
theorem actAll_keeps {P : Session → Prop}
    (kept : ∀ {session : Session}, P session → ∀ action, P (session.act action).2)
    (h : P session) (history : List Action) : P (session.actAll history) :=
  actAll_keeps_of_mem (fun h action _ => kept h action) h

variable (session)

theorem samePlan_executeStep (index : Int) :
    session.SamePlan (session.executeStep index).2 := by
  unfold executeStep
  cases place? session.demo.steps index with
  | none => exact SamePlan.refl session
  | some step =>
      have kept := Ledger.sameTerms_run session.ledger step.script session.demo.vars
      dsimp only
      cases ran : session.ledger.run step.script session.demo.vars with
      | mk answer ledger =>
          rw [ran] at kept
          cases answer with
          | ok tx => exact ⟨rfl, rfl, rfl, kept⟩
          | error fault =>
              dsimp only
              split
              · exact ⟨rfl, rfl, rfl, kept⟩
              · exact ⟨rfl, rfl, rfl, kept⟩

theorem samePlan_executeSteps (indexes : List Int) :
    session.SamePlan (session.executeSteps indexes).2 :=
  executeSteps_keeps (fun same index => same.trans (samePlan_executeStep _ index))
    (SamePlan.refl session) indexes

theorem samePlan_runQuery (query : Query) {result : QueryResult} {after : Session}
    (h : session.runQuery query = .ok (result, after)) : session.SamePlan after := by
  obtain ⟨rows, -, last⟩ := bind_eq_ok.mp h
  obtain ⟨-, rfl⟩ := Prod.mk.inj (Except.ok.inj last)
  exact ⟨rfl, rfl, rfl, Ledger.SameTerms.refl _⟩

/-- Whether the ledger of a session has the terms of a new ledger for its demo. -/
def OnOwnTerms : Prop :=
  (Ledger.create (.text session.demo.id) session.initialClock session.verbose).SameTerms
    session.ledger

theorem onOwnTerms_create (demo : Demo) (clock : Option Moment) (verbose : Bool) :
    (create demo clock verbose).OnOwnTerms :=
  Ledger.SameTerms.refl _

variable {session}

theorem SamePlan.onOwnTerms {after : Session} (same : session.SamePlan after)
    (own : session.OnOwnTerms) : after.OnOwnTerms := by
  unfold OnOwnTerms
  rw [same.demo, same.initialClock, same.verbose]
  exact own.trans same.ledger

/-- A session is on the terms of its demo behind any action, and its demo changes only when
it turns to another one. -/
theorem OnOwnTerms.act (own : session.OnOwnTerms) (action : Action) :
    (session.act action).2.OnOwnTerms ∧
      (session.act action).2.demo = Action.currentDemo session.demo [action] ∧
      (session.act action).2.initialClock = session.initialClock ∧
      (session.act action).2.verbose = session.verbose := by
  have kept {after : Session} (same : session.SamePlan after) :
      after.OnOwnTerms ∧ after.demo = session.demo ∧
        after.initialClock = session.initialClock ∧ after.verbose = session.verbose :=
    ⟨same.onOwnTerms own, same.demo, same.initialClock, same.verbose⟩
  cases action with
  | executeStep index => exact kept (samePlan_executeStep session index)
  | executeAll => exact kept (samePlan_executeSteps session _)
  | runQuery query =>
      unfold Session.act
      dsimp only
      cases answered : session.runQuery query with
      | error fault => exact kept (SamePlan.refl session)
      | ok found => exact kept (samePlan_runQuery session query answered)
  | reset => exact kept ⟨rfl, rfl, rfl, Ledger.sameTerms_reset _⟩
  | switchDemo demo => exact ⟨onOwnTerms_create _ _ _, rfl, rfl, rfl⟩

/-- A session that is emptied is a new session, if it is on the terms of its demo. -/
theorem OnOwnTerms.reset_eq (own : session.OnOwnTerms) :
    session.reset = create session.demo session.initialClock session.verbose := by
  unfold OnOwnTerms at own
  have emptied := own.reset_eq
  unfold reset create
  rw [emptied]
  rfl

/-- Behind a row of actions a session is on the terms of the demo it came to. -/
theorem OnOwnTerms.actAll (own : session.OnOwnTerms) (actions : List Action) :
    (session.actAll actions).OnOwnTerms ∧
      (session.actAll actions).demo = Action.currentDemo session.demo actions ∧
      (session.actAll actions).initialClock = session.initialClock ∧
      (session.actAll actions).verbose = session.verbose := by
  induction actions generalizing session with
  | nil => exact ⟨own, rfl, rfl, rfl⟩
  | cons action rest ih =>
      obtain ⟨here, demo, clock, verbose⟩ := own.act action
      obtain ⟨later, demos, clocks, loud⟩ := ih here
      refine ⟨later, demos.trans ?_, clocks.trans clock, loud.trans verbose⟩
      rw [demo]
      cases action <;> rfl

/-- Whatever was done in a session, once it is emptied it goes on, reply by reply and state by
state, like a new session in the demo it was in last, and once it turns to another demo like
a new session in that one. -/
theorem begins_anew (demo : Demo) (start : Moment) (verbose : Bool) (history : List Action) :
    let session := (create demo (some start) verbose).actAll history
    (∀ later, session.reset.course later =
        (create (Action.currentDemo demo history) (some start) verbose).course later) ∧
      ∀ (other : Demo) (later : List Action), (session.switchDemo other).course later =
        (create other (some start) verbose).course later := by
  intro session
  obtain ⟨own, current, clock, loud⟩ :=
    (onOwnTerms_create demo (some start) verbose).actAll history
  constructor
  · intro later
    rw [own.reset_eq, current, clock, loud]
    rfl
  · intro other later
    rw [switchDemo, clock, loud]
    rfl

end Session

end DoubleEntry
