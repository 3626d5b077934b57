import DoubleEntry.Proofs.Demo.Bookkeeping
import DoubleEntry.Proofs.Ledger.Exact
import DoubleEntry.Proofs.Script.Placeholder
import DoubleEntry.Proofs.Text.Search

/-!
# Looking an address up

Whichever way the balances of one address are asked for, in a ledger or in a session, the
amounts are those of the account that is kept under the address.
-/

namespace DoubleEntry

namespace Placeholder

/-- A text is filled in the same way whether or not it is known to be one. -/
theorem substituteData_text (vars : Variables) (t : Text) :
    substituteData vars (.text t) = .text <$> substitute vars t := by
  unfold substituteData substitute
  cases vars.bind with
  | error fault => rfl
  | ok bindings =>
      cases bindings with
      | nil => exact congrArg (Data.text <$> ·) (fill_nil t).symm
      | cons binding rest => rfl

end Placeholder

namespace Session

variable {session : Session}

/-! ## The ledgers of sessions -/

theorem served_executeStep (served : session.ledger.IsServed) (index : Int) :
    (session.executeStep index).2.ledger.IsServed := by
  have run {answer : Except Fault Transaction} {ledger : Ledger} {step : Step}
      (ran : session.ledger.run step.script session.demo.vars = (answer, ledger)) :
      ledger.IsServed := by
    have left : (session.ledger.run step.script session.demo.vars).2 = ledger := by rw [ran]
    exact left ▸ served.serve (.run step.script session.demo.vars)
  have course := executeStep_course session index
  generalize session.executeStep index = result at course ⊢
  cases course with
  | absent nowhere => exact served
  | committed placed ran => exact run ran
  | refused placed ran known => exact run ran
  | raised placed ran unknown => exact run ran

theorem served_act (served : session.ledger.IsServed) (action : Action) :
    (session.act action).2.ledger.IsServed := by
  cases action with
  | executeStep index => exact served_executeStep served index
  | executeAll =>
      exact executeSteps_keeps (P := fun session => session.ledger.IsServed) served_executeStep
        served _
  | runQuery query => exact (sameSteps_runQuery session query).ledger ▸ served
  | reset => exact served.serve .reset
  | switchDemo demo => exact ⟨_, _, _, [], rfl⟩

theorem served_actAll (served : session.ledger.IsServed) (history : List Action) :
    (session.actAll history).ledger.IsServed :=
  actAll_keeps (P := fun session => session.ledger.IsServed) served_act served history

/-! ## Questions with one pattern -/

variable {filter pattern : Text} (filled : session.substitute filter = .ok pattern)
include filled

theorem substituteData_filled : session.substituteData (.text filter) = .ok (.text pattern) := by
  rw [substituteData, Placeholder.substituteData_text]
  rw [substitute] at filled
  rw [filled]
  rfl

/-- What is filled in can be empty, but nothing comes of a filter that is empty itself. -/
theorem filter_ne_nil (nonempty : pattern ≠ []) : filter ≠ [] := by
  rintro rfl
  rw [substitute, Placeholder.substitute] at filled
  cases bound : Variables.bind session.demo.vars with
  | error fault =>
      rw [bound] at filled
      cases filled
  | ok bindings =>
      rw [bound] at filled
      have empty : Except.ok [] = Except.ok pattern :=
        (Placeholder.fill_empty bindings).symm.trans filled
      exact nonempty (Except.ok.inj empty).symm

theorem answer_filter (nonempty : pattern ≠ []) (plain : Pattern.isWildcard pattern = false) :
    session.answer (.balance (.text filter) []) =
      .ok ((session.ledger.balancesOf pattern).map .balance) := by
  have present : (Data.text filter).isPresent = true := by
    simpa [Data.isPresent] using filter_ne_nil filled nonempty
  have read : session.pattern (.text filter) = .ok pattern := by
    rw [Session.pattern, substituteData_filled filled]
    rfl
  rw [answer, balanceRows, read]
  simp [present, plain, bind, Except.bind, pure, Except.pure]

theorem answer_filters (other : Data) :
    session.answer (.balance other [.text filter]) =
      .ok ((session.ledger.totalsOf [pattern]).map .total) := by
  rw [answer, balanceRows, List.mapM_cons, List.mapM_nil, substituteData_filled filled]
  rfl

omit filled

/-- For each address that is no wildcard, be it spelled with sigils or without, a ledger in use
lists as its balances just those that its account has and that are not zero, in order; as
totals the same with this one account; and as accounts the one that is looked up, if there is
one. So a session on such a ledger answers with the same amounts whether the address is its one
filter or the only one in a row of filters; and the ledger of a session is such a ledger behind
all actions. -/
theorem lookups_agree :
    (∀ ledger : Ledger, ledger.IsServed → ∀ pattern : Text, pattern ≠ [] →
      Pattern.isWildcard pattern = false →
      let held := (ledger.balances pattern).filter fun entry => entry.2 ≠ 0
      let address := Address.normalize pattern
      ledger.balancesOf pattern =
        held.map (fun entry => { address, asset := entry.1, balance := entry.2 }) ∧
      ledger.totalsOf [pattern] =
        held.map (fun entry => { asset := entry.1, balance := entry.2, accounts := [address] }) ∧
      (ledger.accountsBy { address := some pattern, metadata := [] }).map Prod.snd =
        (ledger.account? pattern).toList) ∧
    (∀ session : Session, session.ledger.IsServed → ∀ filter pattern : Text,
      session.substitute filter = .ok pattern → pattern ≠ [] →
      Pattern.isWildcard pattern = false →
      ∃ (rows : List BalanceRow) (totals : List TotalRow),
        session.answer (.balance (.text filter) []) = .ok (rows.map .balance) ∧
        (∀ other, session.answer (.balance other [.text filter]) = .ok (totals.map .total)) ∧
        rows.map (fun row => (row.asset, row.balance)) =
          totals.map fun total => (total.asset, total.balance)) ∧
    ∀ (demo : Demo) (clock : Option Moment) (verbose : Bool) (history : List Action),
      ((create demo clock verbose).actAll history).ledger.IsServed := by
  refine ⟨?_, ?_, ?_⟩
  · intro ledger served pattern nonempty plain
    have kept := served.isKept
    exact ⟨kept.balancesOf_plain plain, kept.totalsOf_plain plain,
      kept.accountsBy_plain plain served.isAddressed nonempty⟩
  · intro session served filter pattern filled nonempty plain
    have kept := served.isKept
    refine ⟨_, _, answer_filter filled nonempty plain, answer_filters filled, ?_⟩
    rw [kept.balancesOf_plain plain, kept.totalsOf_plain plain, List.map_map, List.map_map]
    rfl
  · intro demo clock verbose history
    have served : (create demo clock verbose).ledger.IsServed := ⟨_, _, _, [], rfl⟩
    exact served_actAll served history

/-- The balance of one account is found under both spellings of its address, also by a session
whose variables do not touch it. -/
theorem lookups_agree_unsigned :
    let ledger := (Ledger.create (.text "main") none false).serveAll [.commit Ledger.unsigned]
    let demo : Demo := ⟨"shop", "Shop", .null, [], [], [], []⟩
    let session : Session := { create demo none false with ledger }
    ledger.IsServed ∧
      ledger.balancesOf "a" = [⟨"@a", "USD/2", 10⟩] ∧
      ledger.totalsOf ["@a"] = [⟨"USD/2", 10, ["@a"]⟩] ∧
      session.substitute "a" = .ok "a" ∧
      ∃ (rows : List BalanceRow) (totals : List TotalRow),
        session.answer (.balance (.text "a") []) = .ok (rows.map .balance) ∧
        session.answer (.balance .null [.text "a"]) = .ok (totals.map .total) ∧
        rows.map (fun row => (row.asset, row.balance)) =
          totals.map fun total => (total.asset, total.balance) := by
  intro ledger demo session
  have served : ledger.IsServed := ⟨_, _, _, [.commit Ledger.unsigned], rfl⟩
  obtain ⟨found, asked, -⟩ := lookups_agree
  obtain ⟨rows, -, -⟩ := found ledger served "a" (by decide +kernel) (by decide +kernel)
  obtain ⟨-, totals, -⟩ := found ledger served "@a" (by decide +kernel) (by decide +kernel)
  have filled : session.substitute "a" = .ok "a" := Placeholder.substitute_nil "a"
  obtain ⟨listed, summed, single, several, same⟩ :=
    asked session served "a" "a" filled (by decide +kernel) (by decide +kernel)
  exact ⟨served, rows.trans (by decide +kernel), totals.trans (by decide +kernel), filled, listed,
    summed, single, several .null, same⟩

end Session

end DoubleEntry
