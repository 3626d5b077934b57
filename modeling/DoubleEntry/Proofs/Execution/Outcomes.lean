import DoubleEntry.Proofs.Execution.Refusals
import DoubleEntry.Proofs.Ledger.Store
import DoubleEntry.Proofs.Script.Bindable

/-!
# How runs end

A run of any text on a ledger in use ends with a transaction or with one of the refusals that
are documented for runs. What can go wrong besides, in reading statements, in making postings
and in looking accounts up, is either answered for on the way or never comes up.
-/

namespace DoubleEntry.Ledger

variable {ledger : Ledger}

/-! ## Ledgers that can report -/

theorem Move.terms {after : Ledger} (move : Move ledger after) :
    after.name = ledger.name ∧ after.verbose = ledger.verbose := by
  cases move with
  | commit h =>
      rw [commit_frame h]
      exact ⟨rfl, rfl⟩
  | openAccount address =>
      rw [openAccount_frame]
      exact ⟨rfl, rfl⟩
  | annotate address key value =>
      unfold Ledger.annotate
      rw [updateAccount_frame, openAccount_frame]
      exact ⟨rfl, rfl⟩
  | advance h =>
      rw [advance_ok h]
      exact ⟨rfl, rfl⟩

/-- Whether a ledger has a given name and is as loud as given. -/
def IsSigned (ledger : Ledger) (name : Data) (verbose : Bool) : Prop :=
  ledger.name = name ∧ ledger.verbose = verbose

theorem isSigned_cleared {name : Data} {verbose : Bool} (signed : ledger.IsSigned name verbose) :
    ledger.cleared.IsSigned name verbose := by
  unfold cleared
  rw [openAccount_frame]
  exact signed

theorem isSigned_serveAll (name : Data) (clock : Option Moment) (verbose : Bool)
    (requests : List Request) :
    ((create name clock verbose).serveAll requests).IsSigned name verbose := by
  have fresh : (create name clock verbose).IsSigned name verbose := isSigned_cleared ⟨rfl, rfl⟩
  refine serveAll_preserves (P := fun ledger => ledger.IsSigned name verbose) isSigned_cleared
    (fun move signed => ?_) fresh requests
  exact ⟨move.terms.1.trans signed.1, move.terms.2.trans signed.2⟩

/-- A ledger can report if it is silent or its name is a text. -/
theorem IsSigned.not_cannotReport {name : Data} {verbose : Bool}
    (signed : ledger.IsSigned name verbose) (sayable : verbose = true → ∃ t, name = .text t) :
    ¬ledger.cannotReport := by
  cases loud : verbose with
  | false => exact not_cannotReport_of_silent (signed.2.trans loud)
  | true =>
      obtain ⟨t, rfl⟩ := sayable loud
      exact not_cannotReport_of_named signed.1

/-! ## Looking accounts up -/

/-- Staged balances are written to accounts that are there. -/
theorem hasKey_of_settled {postings : List Posting} (full : ∀ posting ∈ postings, posting.isFull)
    {overdrafts : Entries Text Bool} {written rest : Staged} {key : Text × Text} {amount : Int}
    (done : ledger.stageAll overdrafts postings = .ok (written ++ (key, amount) :: rest)) :
    ((postings.foldl openEnds ledger).settle written).accounts.hasKey key.1 = true := by
  rw [hasKey_settle]
  refine hasKey_of_staged full done ?_
  exact List.mem_map_of_mem (List.mem_append_right written List.mem_cons_self)

/-! ## Every text is answered for -/

/-- Whatever text is run on a ledger in use, with variables that are texts, whole numbers or
monetary values, there is a transaction, or funds do not suffice, everything is asked for, or a
portion or a reference is wrong. No statement is refused for how it is written, no posting for
what it is made of and no number for how it reads. The refusal is reported as it is, unless
portions exceed their total by a number that is too long to be written. Besides, a text is
refused just when a placeholder in it stands for such a number. When a transaction is committed,
each balance is written to an account that is there. -/
theorem run_documented (name : Data) (clock : Option Moment) (verbose : Bool)
    (sayable : verbose = true → ∃ t, name = .text t) (requests : List Request) :
    let ledger := (create name clock verbose).serveAll requests
    (∀ (text : Text) (vars : Variables), (∀ entry ∈ vars, entry.2.isBindable = true) →
      (∃ tx, (ledger.run text vars).1 = .ok tx) ∨
      (∃ fault, (ledger.run text vars).1 = .error fault ∧
        (fault.kind = .insufficientFunds ∨ fault.kind = .unsupported ∨
          fault.kind = .execution) ∧
        (fault.reported = fault ∨ ∃ total excess,
          fault = .portionsExceed total excess ∧ Decimal.fits excess = false)) ∨
      Placeholder.Unfillable vars text ∧ (ledger.run text vars).1 = .error .unwritable) ∧
    ∀ (proposal : Proposal) (written rest : Staged) (key : Text × Text) (amount : Int),
      let postings := proposal.postings.map Posting.normalize
      ledger.stageAll proposal.overdrafts postings = .ok (written ++ (key, amount) :: rest) →
      ((postings.foldl openEnds ledger).settle written).accounts.hasKey key.1 = true := by
  intro ledger
  constructor
  · intro text vars bindable
    have bound : ∃ bindings, vars.bind = .ok bindings := by
      obtain ⟨-, bound⟩ | ⟨⟨entry, mem, bad⟩, -⟩ := vars.bind_cases
      · exact bound
      · rw [bindable entry mem] at bad
        cases bad
    cases answered : (ledger.run text vars).1 with
    | ok tx => exact Or.inl ⟨tx, rfl⟩
    | error fault =>
        have aloud : ¬ledger.cannotReport :=
          (isSigned_serveAll name clock verbose requests).not_cannotReport sayable
        by_cases unfillable : Placeholder.Unfillable vars text
        · rw [run_unfillable unfillable] at answered
          exact Or.inr (Or.inr ⟨unfillable, answered.symm⟩)
        · obtain ⟨kind, told⟩ := failsOnly_run aloud bound unfillable fault answered
          exact Or.inr (Or.inl ⟨fault, rfl, kind, told⟩)
  · intro proposal written rest key amount postings done
    exact hasKey_of_settled
      (List.forall_mem_map.mpr fun posting _ => posting.isFull_normalize) done

/-- A price is filled in; and the payment of an unsigned proposal is written to both sides. -/
theorem run_documented_priced :
    let price : Data := .object [("asset", .text "USD/2"), ("amount", .int 500)]
    let vars : Variables := [("price", price), ("who", .text "shop"), ("count", .int 3)]
    let text : Text := "send $price ( source = @shop destination = @world )"
    let ledger := (create (.text "main") none true).serveAll [.openAccount "shop"]
    let postings := unsigned.postings.map Posting.normalize
    let taken : Staged := [(("@world", "USD/2"), -10)]
    let side : Text × Text := ("@a", "USD/2")
    (∀ entry ∈ vars, entry.2.isBindable = true) ∧
      ((∃ tx, (ledger.run text vars).1 = .ok tx) ∨
        (∃ fault, (ledger.run text vars).1 = .error fault ∧
          (fault.kind = .insufficientFunds ∨ fault.kind = .unsupported ∨
            fault.kind = .execution) ∧
          (fault.reported = fault ∨ ∃ total excess,
            fault = .portionsExceed total excess ∧ Decimal.fits excess = false)) ∨
        Placeholder.Unfillable vars text ∧ (ledger.run text vars).1 = .error .unwritable) ∧
      ledger.stageAll [] postings = .ok (taken ++ [(side, 10)]) ∧
      ((postings.foldl openEnds ledger).settle taken).accounts.hasKey side.1 = true := by
  intro price vars text ledger postings taken side
  obtain ⟨answered, found⟩ := run_documented (.text "main") none true (fun _ => ⟨_, rfl⟩)
    [.openAccount "shop"]
  have bindable : ∀ entry ∈ vars, entry.2.isBindable = true := by decide +kernel
  have staged : ledger.stageAll [] postings = .ok (taken ++ [(side, 10)]) :=
    toOption_eq_some.mp (by decide +kernel)
  exact ⟨bindable, answered text vars bindable, staged, found unsigned taken [] side 10 staged⟩

end DoubleEntry.Ledger
