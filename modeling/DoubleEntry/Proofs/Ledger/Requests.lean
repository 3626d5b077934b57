import DoubleEntry.Ledger.Lookup
import DoubleEntry.Proofs.Execution.Run
import DoubleEntry.Proofs.Ledger.Staging
import Mathlib.Logic.Relation

/-!
# Requests

What a ledger is asked to change, and what it is after any row of such requests, the
ones that fail included. All changes are rows of four kinds of moves, or the ledger is
emptied; so what these keep holds of every ledger that was ever in use.
-/

namespace DoubleEntry

/-- What a ledger is asked to change. -/
inductive Request where
  | commit (proposal : Proposal)
  | run (text : Text) (vars : Variables)
  | annotate (address : Text) (key value : Data)
  | openAccount (address : Text)
  | advance (moment : Moment)
  | reset

namespace Ledger

/-- The ledger behind a request, whether it was granted or not. -/
def serve (ledger : Ledger) : Request → Ledger
  | .commit proposal => (ledger.commitAloud proposal).2
  | .run text vars => (ledger.run text vars).2
  | .annotate address key value => (ledger.annotateData address key value).2
  | .openAccount address => ledger.openAccount address
  | .advance moment =>
    match ledger.advance moment with
    | .ok after => after
    | .error _ => ledger
  | .reset => ledger.reset

/-- The ledger behind a row of requests. -/
def serveAll (ledger : Ledger) (requests : List Request) : Ledger := requests.foldl serve ledger

@[simp] theorem serveAll_nil (ledger : Ledger) : ledger.serveAll [] = ledger := rfl

@[simp] theorem serveAll_cons (ledger : Ledger) (request : Request) (rest : List Request) :
    ledger.serveAll (request :: rest) = (ledger.serve request).serveAll rest := rfl

/-- A clock that was moved is all that changed. -/
theorem advance_ok {ledger after : Ledger} {moment : Moment}
    (h : ledger.advance moment = .ok after) : after = { ledger with clock := some moment } := by
  unfold advance at h
  split at h
  · split at h
    · cases h
    · exact (Except.ok.inj h).symm
    · cases h
  · exact (Except.ok.inj h).symm

/-! ## Moves -/

/-- What is done to a ledger that is not emptied. -/
inductive Move : Ledger → Ledger → Prop
  | commit {ledger after : Ledger} {proposal : Proposal} {tx : Transaction}
      (h : ledger.commit proposal = .ok (tx, after)) : Move ledger after
  | openAccount (ledger : Ledger) (address : Text) : Move ledger (ledger.openAccount address)
  | annotate (ledger : Ledger) (address : Text) (key value : Data) :
      Move ledger (ledger.annotate address key value)
  | advance {ledger after : Ledger} {moment : Moment} (h : ledger.advance moment = .ok after) :
      Move ledger after

/-- Moves one after the other. -/
abbrev Moves : Ledger → Ledger → Prop := Relation.ReflTransGen Move

/-- Moves one after the other that leave the clock as it is. -/
abbrev TimelessMoves : Ledger → Ledger → Prop :=
  Relation.ReflTransGen fun before after => Move before after ∧ after.clock = before.clock

variable (ledger : Ledger)

/-- A note touches nothing but the accounts. -/
theorem annotate_frame (address : Text) (key value : Data) :
    ledger.annotate address key value =
      { ledger with accounts := (ledger.annotate address key value).accounts } := by
  unfold annotate
  rw [updateAccount_frame, openAccount_frame]

theorem annotate_timeless (address : Text) (key value : Data) :
    ledger.TimelessMoves (ledger.annotate address key value) :=
  Relation.ReflTransGen.single ⟨Move.annotate ledger address key value, by rw [annotate_frame]⟩

theorem openAccount_timeless (address : Text) :
    ledger.TimelessMoves (ledger.openAccount address) :=
  Relation.ReflTransGen.single ⟨Move.openAccount ledger address, by rw [openAccount_frame]⟩

theorem commitAloud_timeless (proposal : Proposal) :
    ledger.TimelessMoves (ledger.commitAloud proposal).2 := by
  unfold commitAloud
  cases made : ledger.commit proposal with
  | error fault => exact Relation.ReflTransGen.refl
  | ok result =>
      exact Relation.ReflTransGen.single ⟨Move.commit made, by rw [commit_frame made]⟩

theorem annotateAll_timeless (notes : List (Text × Text × Text)) :
    ledger.TimelessMoves (ledger.annotateAll notes).2 := by
  induction notes generalizing ledger with
  | nil => exact Relation.ReflTransGen.refl
  | cons note rest ih =>
      obtain ⟨reference, key, value⟩ := note
      unfold annotateAll
      cases Script.resolve [] reference with
      | error fault => exact Relation.ReflTransGen.refl
      | ok account => exact (annotate_timeless ledger account _ _).trans (ih _)

theorem run_timeless (text : Text) (vars : Variables) :
    ledger.TimelessMoves (ledger.run text vars).2 := by
  rw [run_eq]
  cases ledger.draft text vars with
  | error fault => exact Relation.ReflTransGen.refl
  | ok drafted =>
      obtain ⟨script, proposal⟩ := drafted
      obtain ⟨notes, left⟩ := conclude_annotates ledger script proposal
      dsimp only
      rw [left]
      exact (commitAloud_timeless ledger proposal).trans (annotateAll_timeless _ notes)

/-- A request empties the ledger, moves the clock on, or leads to moves that leave the clock
as it is. -/
theorem serve_course (request : Request) :
    ledger.serve request = ledger.reset ∨
      (∃ moment, request = .advance moment ∧
        ledger.advance moment = .ok (ledger.serve request)) ∨
      ledger.TimelessMoves (ledger.serve request) := by
  cases request with
  | commit proposal => exact Or.inr (Or.inr (commitAloud_timeless ledger proposal))
  | run text vars => exact Or.inr (Or.inr (run_timeless ledger text vars))
  | annotate address key value =>
      unfold serve annotateData
      dsimp only
      cases key.asKey with
      | error fault => exact Or.inr (Or.inr (openAccount_timeless ledger address))
      | ok key => exact Or.inr (Or.inr (annotate_timeless ledger address _ _))
  | openAccount address => exact Or.inr (Or.inr (openAccount_timeless ledger address))
  | advance moment =>
      unfold serve
      dsimp only
      cases moved : ledger.advance moment with
      | error fault => exact Or.inr (Or.inr Relation.ReflTransGen.refl)
      | ok after => exact Or.inr (Or.inl ⟨moment, rfl, moved⟩)
  | reset => exact Or.inl rfl

theorem TimelessMoves.moves {after : Ledger} (timeless : ledger.TimelessMoves after) :
    ledger.Moves after :=
  Relation.ReflTransGen.mono (fun _ _ => And.left) _ _ timeless

theorem commitAloud_moves (proposal : Proposal) : ledger.Moves (ledger.commitAloud proposal).2 :=
  TimelessMoves.moves ledger (commitAloud_timeless ledger proposal)

theorem run_moves (text : Text) (vars : Variables) : ledger.Moves (ledger.run text vars).2 :=
  TimelessMoves.moves ledger (run_timeless ledger text vars)

/-- What moves keep holds behind moves. -/
theorem Moves.keep {P : Ledger → Prop}
    (kept : ∀ {ledger after}, Move ledger after → P ledger → P after)
    {ledger after : Ledger} (moves : ledger.Moves after) (h : P ledger) : P after := by
  induction moves with
  | refl => exact h
  | tail _ move ih => exact kept move ih

theorem TimelessMoves.keep {P : Ledger → Prop}
    (kept : ∀ {ledger after}, Move ledger after → after.clock = ledger.clock →
      P ledger → P after)
    {ledger after : Ledger} (timeless : ledger.TimelessMoves after) (h : P ledger) :
    P after := by
  induction timeless with
  | refl => exact h
  | tail _ move ih => exact kept move.1 move.2 ih

/-- What is kept when a ledger is emptied, when its clock moves on as it is asked to, and by
moves that leave the clock as it is, holds behind all requests. -/
theorem serveAll_preserves_timed {P : Ledger → Prop} {requests : List Request}
    (emptied : ∀ {ledger : Ledger}, P ledger → P ledger.cleared)
    (advanced : ∀ {ledger after moment}, .advance moment ∈ requests →
      ledger.advance moment = .ok after → P ledger → P after)
    (kept : ∀ {ledger after}, Move ledger after → after.clock = ledger.clock →
      P ledger → P after)
    {ledger : Ledger} (h : P ledger) : P (ledger.serveAll requests) := by
  induction requests generalizing ledger with
  | nil => exact h
  | cons request rest ih =>
      refine ih (fun asked => advanced (List.mem_cons_of_mem _ asked)) ?_
      rcases serve_course ledger request with cleared | ⟨moment, rfl, moved⟩ | timeless
      · rw [cleared]
        exact emptied h
      · exact advanced List.mem_cons_self moved h
      · exact timeless.keep kept h

/-- What is kept when a ledger is emptied and kept by moves holds behind all requests. -/
theorem serveAll_preserves {P : Ledger → Prop}
    (emptied : ∀ {ledger : Ledger}, P ledger → P ledger.cleared)
    (kept : ∀ {ledger after}, Move ledger after → P ledger → P after)
    {ledger : Ledger} (h : P ledger) (requests : List Request) : P (ledger.serveAll requests) :=
  serveAll_preserves_timed (P := P) emptied (fun _ moved => kept (Move.advance moved))
    (fun move _ => kept move) h

/-- What holds of empty ledgers and is kept by moves holds behind all requests. -/
theorem serveAll_keeps {P : Ledger → Prop} (cleared : ∀ ledger : Ledger, P ledger.cleared)
    (kept : ∀ {ledger after}, Move ledger after → P ledger → P after)
    {ledger : Ledger} (h : P ledger) (requests : List Request) : P (ledger.serveAll requests) :=
  serveAll_preserves (fun _ => cleared _) kept h requests

/-! ## The postings that were made -/

/-- All postings of the log in order. -/
def posted : List Posting := ledger.log.flatMap Transaction.postings

/-- The postings that a proposal adds to the log. -/
def committed (proposal : Proposal) : List Posting :=
  match ledger.commit proposal with
  | .ok (tx, _) => tx.postings
  | .error _ => []

/-- The postings that a request adds to the log. -/
def postingsOf : Request → List Posting
  | .commit proposal => ledger.committed proposal
  | .run text vars =>
    match ledger.draft text vars with
    | .ok (_, proposal) => ledger.committed proposal
    | .error _ => []
  | _ => []

/-- The postings that were committed since a row of requests last emptied the ledger,
given those from before. -/
def postedSince (ledger : Ledger) (before : List Posting) : List Request → List Posting
  | [] => before
  | .reset :: rest => postedSince (ledger.serve .reset) [] rest
  | request :: rest =>
    postedSince (ledger.serve request) (before ++ ledger.postingsOf request) rest

theorem annotateAll_frame (notes : List (Text × Text × Text)) :
    (ledger.annotateAll notes).2 =
      { ledger with accounts := (ledger.annotateAll notes).2.accounts } := by
  induction notes generalizing ledger with
  | nil => rfl
  | cons note rest ih =>
      obtain ⟨reference, key, value⟩ := note
      unfold annotateAll
      cases Script.resolve [] reference with
      | error fault => rfl
      | ok account =>
          dsimp only
          rw [annotate_frame]
          exact ih _

theorem log_annotate (address : Text) (key value : Data) :
    (ledger.annotate address key value).log = ledger.log := by
  rw [annotate_frame]

theorem log_annotateAll (notes : List (Text × Text × Text)) :
    (ledger.annotateAll notes).2.log = ledger.log := by
  rw [annotateAll_frame]

theorem posted_commitAloud (proposal : Proposal) :
    (ledger.commitAloud proposal).2.posted = ledger.posted ++ ledger.committed proposal := by
  unfold commitAloud committed
  cases made : ledger.commit proposal with
  | error fault => exact (List.append_nil _).symm
  | ok result =>
      obtain ⟨tx, after⟩ := result
      dsimp only
      rw [commit_frame made]
      simp [posted]

theorem posted_run (text : Text) (vars : Variables) :
    (ledger.run text vars).2.posted = ledger.posted ++ ledger.postingsOf (.run text vars) := by
  rw [run_eq, postingsOf]
  cases ledger.draft text vars with
  | error fault => exact (List.append_nil _).symm
  | ok drafted =>
      obtain ⟨script, proposal⟩ := drafted
      obtain ⟨notes, left⟩ := conclude_annotates ledger script proposal
      dsimp only
      rw [left, posted, log_annotateAll]
      exact posted_commitAloud ledger proposal

/-- A request adds its postings to the log, unless it empties it. -/
theorem posted_serve {request : Request} (h : request ≠ .reset) :
    (ledger.serve request).posted = ledger.posted ++ ledger.postingsOf request := by
  have unchanged {after : Ledger} (same : after.log = ledger.log) :
      after.posted = ledger.posted ++ [] := by
    rw [posted, posted, same, List.append_nil]
  cases request with
  | commit proposal => exact posted_commitAloud ledger proposal
  | run text vars => exact posted_run ledger text vars
  | annotate address key value =>
      apply unchanged
      unfold serve annotateData
      dsimp only
      cases key.asKey with
      | error fault => rw [openAccount_frame]
      | ok key => exact log_annotate ledger address _ _
  | openAccount address =>
      apply unchanged
      rw [serve, openAccount_frame]
  | advance moment =>
      apply unchanged
      unfold serve
      dsimp only
      cases moved : ledger.advance moment with
      | error fault => rfl
      | ok after =>
          rw [advance_ok moved]
  | reset => exact absurd rfl h

/-- The log holds what was committed since the ledger was last emptied. -/
theorem posted_serveAll (requests : List Request) :
    (ledger.serveAll requests).posted = ledger.postedSince ledger.posted requests := by
  induction requests generalizing ledger with
  | nil => rfl
  | cons request rest ih =>
      rw [serveAll_cons, ih]
      by_cases h : request = .reset
      · subst h
        rfl
      · rw [posted_serve ledger h]
        cases request <;> first | rfl | exact absurd rfl h

/-! ## What requests do to the books -/

/-- Whether a ledger has the balances and the log of another. -/
structure SameBooks (before after : Ledger) : Prop where
  balances : ∀ address, after.balances address = before.balances address
  log : after.log = before.log

variable {ledger}

theorem SameBooks.refl (ledger : Ledger) : ledger.SameBooks ledger where
  balances := fun _ => rfl
  log := rfl

theorem SameBooks.trans {mid after : Ledger} (first : ledger.SameBooks mid)
    (second : mid.SameBooks after) : ledger.SameBooks after where
  balances := fun address => (second.balances address).trans (first.balances address)
  log := second.log.trans first.log

theorem SameBooks.balance {after : Ledger} (same : ledger.SameBooks after)
    (address asset : Text) : after.balance address asset = ledger.balance address asset := by
  rw [balance_eq, balance_eq, same.balances]

variable (ledger)

theorem sameBooks_annotate (address : Text) (key value : Data) :
    ledger.SameBooks (ledger.annotate address key value) where
  balances := fun other => balances_annotate ledger address other key value
  log := log_annotate ledger address key value

theorem sameBooks_openAccount (address : Text) : ledger.SameBooks (ledger.openAccount address) where
  balances := balances_openAccount ledger address
  log := by rw [openAccount_frame]

theorem sameBooks_annotateAll (notes : List (Text × Text × Text)) :
    ledger.SameBooks (ledger.annotateAll notes).2 := by
  induction notes generalizing ledger with
  | nil => exact SameBooks.refl ledger
  | cons note rest ih =>
      obtain ⟨reference, key, value⟩ := note
      unfold annotateAll
      cases Script.resolve [] reference with
      | error fault => exact SameBooks.refl ledger
      | ok account => exact (sameBooks_annotate ledger account _ _).trans (ih _)

/-- The proposal that a request brings before a commit, if it gets that far. -/
def proposalOf : Request → Option Proposal
  | .commit proposal => some proposal
  | .run text vars => (ledger.draft text vars).toOption.map Prod.snd
  | _ => none

/-- Behind a request that brings a proposal before a commit, the books are those behind
that commit. -/
theorem serve_proposed {request : Request} {proposal : Proposal}
    (h : ledger.proposalOf request = some proposal) :
    (ledger.commitAloud proposal).2.SameBooks (ledger.serve request) := by
  cases request with
  | commit given =>
      cases h
      exact SameBooks.refl _
  | run text vars =>
      have course := run_eq ledger text vars
      rw [proposalOf] at h
      cases drafted : ledger.draft text vars with
      | error fault =>
          rw [drafted] at h
          cases h
      | ok result =>
          obtain ⟨script, made⟩ := result
          rw [drafted] at h course
          obtain rfl : made = proposal := Option.some.inj h
          obtain ⟨notes, left⟩ := conclude_annotates ledger script made
          rw [serve, course, left]
          exact sameBooks_annotateAll _ notes
  | annotate address key value => cases h
  | openAccount address => cases h
  | advance moment => cases h
  | reset => cases h

/-- A request that neither empties the ledger nor comes to a commit leaves the books as
they were. -/
theorem serve_unproposed {request : Request} (kept : request ≠ .reset)
    (h : ledger.proposalOf request = none) : ledger.SameBooks (ledger.serve request) := by
  cases request with
  | commit proposal => cases h
  | run text vars =>
      have course := run_eq ledger text vars
      rw [proposalOf] at h
      cases drafted : ledger.draft text vars with
      | error fault =>
          rw [drafted] at course
          rw [serve, course]
          exact SameBooks.refl ledger
      | ok result =>
          rw [drafted] at h
          cases h
  | annotate address key value =>
      rw [serve, annotateData]
      cases key.asKey with
      | error fault => exact sameBooks_openAccount ledger address
      | ok key => exact sameBooks_annotate ledger address _ _
  | openAccount address => exact sameBooks_openAccount ledger address
  | advance moment =>
      rw [serve]
      cases moved : ledger.advance moment with
      | error fault => exact SameBooks.refl ledger
      | ok after =>
          obtain rfl := advance_ok moved
          exact ⟨fun _ => rfl, rfl⟩
  | reset => exact absurd rfl kept

theorem commitAloud_ok {proposal : Proposal} {tx : Transaction} {after : Ledger}
    (h : ledger.commit proposal = .ok (tx, after)) : (ledger.commitAloud proposal).2 = after := by
  rw [commitAloud, h]

theorem commitAloud_error {proposal : Proposal} {fault : Fault}
    (h : ledger.commit proposal = .error fault) :
    ledger.commitAloud proposal = (.error fault, ledger) := by
  rw [commitAloud, h]

/-- A request that does not empty the ledger keeps the log and may add to it. -/
theorem log_serve {request : Request} (kept : request ≠ .reset) :
    ledger.log <+: (ledger.serve request).log := by
  cases proposed : ledger.proposalOf request with
  | none =>
      exact ⟨[], by rw [List.append_nil, (serve_unproposed ledger kept proposed).log]⟩
  | some proposal =>
      rw [(serve_proposed ledger proposed).log]
      cases made : ledger.commit proposal with
      | error fault =>
          exact ⟨[], by rw [List.append_nil, commitAloud_error ledger made]⟩
      | ok result =>
          rw [commitAloud_ok ledger made, commit_frame made]
          exact List.prefix_append _ _

theorem log_serveAll {requests : List Request} (kept : Request.reset ∉ requests) :
    ledger.log <+: (ledger.serveAll requests).log := by
  induction requests generalizing ledger with
  | nil => exact List.prefix_rfl
  | cons request rest ih =>
      obtain ⟨here, later⟩ := not_or.mp (mt List.mem_cons.mpr kept)
      exact (log_serve ledger (Ne.symm here)).trans (ih _ later)

end Ledger

end DoubleEntry
