import DoubleEntry.Proofs.Execution.Refusals
import DoubleEntry.Proofs.Script.Bindable

/-!
# Sends of everything

A send of everything there is is refused before anything else is looked at, and nothing else is
refused in this way. A cap that asks for everything is not refused: it lets nothing through, so
that the send goes on as if its source gave nothing.
-/

namespace DoubleEntry

/-! ## Other faults -/

namespace Fault

/-- Whether a fault is another one than that an operation is not supported. -/
def IsOther (fault : Fault) : Prop := fault.kind ≠ .unsupported

/-- That an operation is not supported is a fault of the ledger. -/
theorem isOther_of_foreign {fault : Fault} (foreign : fault.isLedgerFault = false) :
    fault.IsOther := by
  intro kind
  cases fault
  case everythingAsked => cases foreign
  all_goals cases kind

end Fault

theorem Script.isOther_resolve (vars : Variables) (reference : Text) :
    FailsOnly Fault.IsOther (Script.resolve vars reference) := by
  have bound : FailsOnly Fault.IsOther vars.bind := by
    obtain ⟨-, bindings, made⟩ | ⟨-, fault, failed, foreign⟩ := vars.bind_cases
    · rw [made]
      exact failsOnly_ok bindings
    · rw [failed]
      exact failsOnly_error (Fault.isOther_of_foreign foreign)
  have filled : FailsOnly Fault.IsOther (Placeholder.substitute vars reference) := by
    refine bound.bind fun bindings _ => ?_
    rw [Placeholder.fill_eq]
    exact failsOnly_writing nofun _ _
  refine filled.bind fun account _ => ?_
  split
  · exact failsOnly_error nofun
  · exact failsOnly_ok _

theorem Posting.isOther_make (source destination asset : Text) (amount : Int) :
    FailsOnly Fault.IsOther (make source destination asset amount) := by
  have spelled (missing : Fault) (other : missing.IsOther) (value : Data) :
      FailsOnly Fault.IsOther (nonblank missing value) := by
    unfold nonblank
    split
    · exact failsOnly_error other
    · split
      · split
        · exact failsOnly_error other
        · exact failsOnly_ok _
      · exact failsOnly_error nofun
  refine (spelled .emptySource nofun _).bind fun source _ =>
    (spelled .emptyDestination nofun _).bind fun destination _ =>
      (spelled .emptyAsset nofun _).bind fun asset _ => ?_
  cases amount with
  | ofNat amount => exact failsOnly_ok _
  | negSucc amount => exact failsOnly_error nofun

theorem isOther_pair (asset : Text) (draws : List Draw) (allocations : List Allocation) :
    FailsOnly Fault.IsOther (pair asset draws allocations) := by
  induction draws, allocations using pair.induct with
  | case1 allocations =>
      rw [pair]
      exact failsOnly_ok []
  | case2 draws nonempty =>
      rw [pair_nil]
      exact failsOnly_ok []
  | case3 draw draws allocation allocations used ih =>
      rw [pair, if_pos used]
      exact ih
  | case4 draw draws allocation allocations unused filled ih =>
      rw [pair, if_neg unused, if_pos filled]
      exact ih
  | case5 draw draws allocation allocations unused unfilled fits ih =>
      rw [pair, if_neg unused, if_neg unfilled, if_pos fits]
      exact (Posting.isOther_make _ _ _ _).bind fun posting _ => ih.bind fun rest _ => failsOnly_ok _
  | case6 draw draws allocation allocations unused unfilled exceeds ih =>
      rw [pair, if_neg unused, if_neg unfilled, if_neg exceeds]
      exact (Posting.isOther_make _ _ _ _).bind fun posting _ => ih.bind fun rest _ => failsOnly_ok _

/-! ## Caps -/

namespace Source

/-- A cap, or a cap of nothing where it asks for everything. -/
def closedCap (cap : Monetary) : Monetary :=
  match cap.quantity with
  | .exactly _ => cap
  | .everything => { cap with quantity := .exactly 0 }

/-- The source with such a cap. -/
def closed (source : Source) : Source := { source with cap := source.cap.map closedCap }

/-- A cap that asks for everything lets through what a cap of nothing does. -/
theorem capped_closed (cap : Option Monetary) (needed : Nat) :
    capped (cap.map closedCap) needed = capped cap needed := by
  cases cap with
  | none => rfl
  | some literal =>
      obtain ⟨asset, quantity⟩ := literal
      cases quantity with
      | exactly amount => rfl
      | everything => exact Nat.min_zero needed

theorem gives_closed (source : Source) (mayOverdraw : Bool) (available : Int) (needed : Nat) :
    source.closed.gives mayOverdraw available needed = source.gives mayOverdraw available needed := by
  unfold gives closed
  rw [capped_closed]

end Source

namespace Ledger

variable (ledger : Ledger) (overlay : Overlay) (vars : Variables)

theorem drawFrom_closed (asset : Text) (needed : Nat) (sources : List Source) :
    ledger.drawFrom overlay vars asset needed (sources.map Source.closed) =
      ledger.drawFrom overlay vars asset needed sources := by
  induction sources generalizing needed with
  | nil => rfl
  | cons source rest ih =>
      cases needed with
      | zero => rw [List.map_cons, drawFrom, drawFrom]
      | succ needed =>
          rw [List.map_cons, drawFrom, drawFrom]
          · simp only [Source.gives_closed, ih]
            rfl
          all_goals exact Nat.succ_ne_zero needed

theorem draw_closed (asset : Text) (sources : List Source) (needed : Nat) :
    ledger.draw overlay vars asset (sources.map Source.closed) needed =
      ledger.draw overlay vars asset sources needed := by
  have covers : coversShortfall vars ∘ Source.closed = coversShortfall vars := rfl
  rw [draw, draw, drawFrom_closed, List.any_map, covers]

/-! ## Sends -/

theorem executeSend_everything {send : Send} (asked : send.monetary.quantity = .everything) :
    ledger.executeSend overlay vars send = .error (.everythingAsked send.monetary.asset) := by
  rw [executeSend, asked]
  rfl

theorem isOther_executeSend {send : Send} {total : Nat}
    (asked : send.monetary.quantity = .exactly total) :
    FailsOnly Fault.IsOther (ledger.executeSend overlay vars send) := by
  rw [executeSend, asked]
  refine (failsOnly_draw (Script.isOther_resolve vars) (fun _ _ => nofun) _).bind fun draws _ => ?_
  refine (Destination.failsOnly_splitLeft (Script.isOther_resolve vars) (fun _ => nofun)
    (fun _ => nofun) total _).bind fun allocations _ => ?_
  exact (isOther_pair _ _ _).bind fun postings _ => failsOnly_ok _

theorem executeSend_unsupported_iff (send : Send) :
    (∃ fault, ledger.executeSend overlay vars send = .error fault ∧ fault.kind = .unsupported) ↔
      send.monetary.quantity = .everything := by
  constructor
  · rintro ⟨fault, failed, kind⟩
    cases asked : send.monetary.quantity with
    | everything => rfl
    | exactly total => exact absurd kind (isOther_executeSend ledger overlay vars asked fault failed)
  · intro asked
    exact ⟨_, executeSend_everything ledger overlay vars asked, rfl⟩

/-- A send is refused as not supported just when it asks for everything itself. It is then
refused with its asset, and leaves no overlay behind. Caps that ask for everything are taken for
caps of nothing: the send is worked out as it would be with these. -/
theorem executeSend_sendAll (send : Send) :
    (ledger.executeSend overlay vars send = .error (.everythingAsked send.monetary.asset) ↔
      send.monetary.quantity = .everything) ∧
    ((∃ fault, ledger.executeSend overlay vars send = .error fault ∧ fault.kind = .unsupported) ↔
      send.monetary.quantity = .everything) ∧
    ledger.executeSend overlay vars { send with sources := send.sources.map Source.closed } =
      ledger.executeSend overlay vars send := by
  have unsupported := executeSend_unsupported_iff ledger overlay vars send
  refine ⟨⟨fun refused => unsupported.mp ⟨_, refused, rfl⟩,
    executeSend_everything ledger overlay vars⟩, unsupported, ?_⟩
  unfold executeSend
  simp only [draw_closed]

/-- A send from an account up to everything and from the outside world is not refused, although
its accounts are known. -/
theorem everything_in_cap_not_refused :
    ¬∀ (ledger : Ledger) (overlay : Overlay) (vars : Variables) (statement : Text) (send : Send),
      Send.ofText statement = .ok send →
      (∀ source ∈ send.sources, ∃ account, Script.resolve vars source.account = .ok account) →
      (∀ entry ∈ Destination.live send.destinations,
        ∃ account, Script.resolve vars entry.1 = .ok account) →
      (send.monetary.quantity = .everything ∨
        ∃ source ∈ send.sources, ∃ cap ∈ source.cap, cap.quantity = .everything) →
      ∃ fault, ledger.executeSend overlay vars send = .error fault ∧ fault.kind = .unsupported := by
  intro refused
  let ledger := create (.text "main") none false
  let capped : Source := ⟨"@a", some ⟨"USD/2", .everything⟩, .refused⟩
  let send : Send := ⟨⟨"USD/2", .exactly 10⟩, [capped, ⟨"@world", none, .refused⟩],
    [⟨.account "@b", none⟩]⟩
  have read : Send.ofText ("send [USD/2 10] ( source = \x7b max [USD/2 *] from @a @world \x7d " ++
      "destination = @b )") = .ok send := toOption_eq_some.mp (by decide +kernel)
  have known (reference : Text) (address : ¬Script.isVariable reference) :
      ∃ account, Script.resolve [] reference = .ok account :=
    ⟨_, Script.resolve_address address⟩
  have sources : ∀ source ∈ send.sources,
      ∃ account, Script.resolve [] source.account = .ok account :=
    List.forall_mem_cons.mpr ⟨known _ (by unfold Script.isVariable; decide),
      List.forall_mem_singleton.mpr (known _ (by unfold Script.isVariable; decide))⟩
  have destinations : ∀ entry ∈ Destination.live send.destinations,
      ∃ account, Script.resolve [] entry.1 = .ok account :=
    List.forall_mem_singleton.mpr (known _ (by unfold Script.isVariable; decide))
  have everything := (executeSend_unsupported_iff ledger [] [] send).mp
    (refused ledger [] [] _ send read sources destinations
      (Or.inr ⟨capped, List.mem_cons_self, _, rfl, rfl⟩))
  cases everything

/-! ## Runs -/

theorem executeSends_everything {sends : List Send}
    (asked : ∃ send ∈ sends, send.monetary.quantity = .everything) :
    ∃ fault, ledger.executeSends vars overlay sends = .error fault := by
  induction sends generalizing overlay with
  | nil =>
      obtain ⟨send, mem, -⟩ := asked
      cases mem
  | cons first rest ih =>
      rw [executeSends]
      cases worked : ledger.executeSend overlay vars first with
      | error fault => exact ⟨fault, rfl⟩
      | ok result =>
          obtain ⟨postings, after⟩ := result
          obtain ⟨send, mem, everything⟩ := asked
          rcases List.mem_cons.mp mem with rfl | later
          · rw [executeSend_everything ledger overlay vars everything] at worked
            cases worked
          · obtain ⟨fault, failed⟩ := ih after ⟨send, later, everything⟩
            refine ⟨fault, ?_⟩
            simp only [bind, Except.bind, failed]

/-- A script with a send of everything is refused, and the ledger stays as it is. -/
theorem runScript_everything {script : Script}
    (asked : ∃ send ∈ script.sends, send.monetary.quantity = .everything) :
    ∃ fault, ledger.runScript script = (.error fault, ledger) := by
  obtain ⟨fault, failed⟩ := executeSends_everything ledger [] [] asked
  refine ⟨fault, ?_⟩
  have proposed : ledger.propose script = .error fault := by
    rw [propose, failed]
    rfl
  rw [runScript, proposed]

end Ledger

end DoubleEntry
