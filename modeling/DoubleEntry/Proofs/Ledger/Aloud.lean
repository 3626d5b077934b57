import DoubleEntry.Proofs.Faults
import DoubleEntry.Proofs.Ledger.Requests

/-!
# Saying what was committed

A verbose ledger shows every transaction that it commits. What it is to show can keep it from
answering, though the transaction stands: a reference or a name of the ledger that is no text,
and a number that is too long to be written.
-/

namespace DoubleEntry

namespace Receipt

/-- Whether all numbers of a receipt can be written. -/
def IsLegible (tx : Transaction) : Prop := ∀ n ∈ numbers tx, Decimal.fits n = true

theorem isLegible_of_plain {tx : Transaction} (plain : tx.metadata = [])
    (fit : ∀ posting ∈ tx.postings, Decimal.fits posting.amount = true) : IsLegible tx := by
  intro n mem
  rw [numbers, plain, List.flatMap_nil, List.append_nil] at mem
  obtain ⟨posting, made, rfl⟩ := List.mem_map.mp mem
  exact fit posting made

theorem IsLegible.fits_amount {tx : Transaction} (legible : IsLegible tx) {posting : Posting}
    (made : posting ∈ tx.postings) : Decimal.fits posting.amount = true :=
  legible _ (List.mem_append_left _ (List.mem_map_of_mem made))

/-- Whether a reference is there that is no text. -/
def IsOddlyReferenced (tx : Transaction) : Prop :=
  tx.reference.isPresent = true ∧ tx.reference.asText? = none

theorem written_odd {tx : Transaction} (odd : IsOddlyReferenced tx) (number : Text) :
    written number tx = .error .wrongKind := by
  have both : (tx.reference.isPresent && tx.reference.asText?.isNone) = true := by
    rw [odd.1, odd.2]
    rfl
  rw [written, if_pos both]
  rfl

theorem written_plain {tx : Transaction} (plain : ¬IsOddlyReferenced tx) (number : Text) :
    written number tx = Decimal.writing (numbers tx) (textUnder number tx) := by
  have neither : ¬(tx.reference.isPresent && tx.reference.asText?.isNone) = true := by
    rwa [Bool.and_eq_true, Option.isNone_iff_eq_none]
  rw [written, if_neg neither]

end Receipt

namespace Ledger

/-- Whether a ledger is to say what it cannot: it is verbose, and its name is no text. -/
def cannotReport (ledger : Ledger) : Prop := ledger.verbose = true ∧ ledger.name.asText? = none

theorem not_cannotReport_of_silent {ledger : Ledger} (silent : ledger.verbose = false) :
    ¬ledger.cannotReport := by
  rintro ⟨verbose, -⟩
  rw [silent] at verbose
  cases verbose

theorem not_cannotReport_of_named {ledger : Ledger} {name : Text}
    (called : ledger.name = .text name) : ¬ledger.cannotReport := by
  rintro ⟨-, nameless⟩
  rw [called] at nameless
  cases nameless

section Note

variable (ledger : Ledger) {tx : Transaction}

theorem committedNote_odd (odd : Receipt.IsOddlyReferenced tx) :
    ledger.committedNote tx = .error .wrongKind := by
  rw [committedNote, Receipt.ofTransaction, Receipt.written_odd odd]
  rfl

theorem committedNote_illegible (plain : ¬Receipt.IsOddlyReferenced tx)
    (illegible : ∃ n ∈ Receipt.numbers tx, Decimal.fits n = false) :
    ledger.committedNote tx = .error .unwritable := by
  rw [committedNote, Receipt.ofTransaction, Receipt.written_plain plain,
    Decimal.writing_of_not_fits illegible]
  rfl

theorem committedNote_legible (plain : ¬Receipt.IsOddlyReferenced tx)
    (legible : Receipt.IsLegible tx) :
    ledger.committedNote tx = (fun name => Receipt.committedText tx name ++ "\n") <$>
      ledger.name.textOr .wrongKind := by
  rw [committedNote, Receipt.ofTransaction, Receipt.written_plain plain,
    Decimal.writing_of_fits legible]
  rfl

/-- What a verbose ledger comes to when it is to say what was committed: a reference that is no
text, a number that is too long, a name of its own that is no text, or what it says. -/
inductive NoteCourse (ledger : Ledger) (tx : Transaction) : Except Fault Text → Prop
  | odd (odd : Receipt.IsOddlyReferenced tx) : NoteCourse ledger tx (.error .wrongKind)
  | illegible (plain : ¬Receipt.IsOddlyReferenced tx)
      (long : ∃ n ∈ Receipt.numbers tx, Decimal.fits n = false) :
      NoteCourse ledger tx (.error .unwritable)
  | nameless (legible : Receipt.IsLegible tx) (nameless : ledger.name.asText? = none) :
      NoteCourse ledger tx (.error .wrongKind)
  | said {name : Text} (legible : Receipt.IsLegible tx) (called : ledger.name = .text name) :
      NoteCourse ledger tx (.ok (Receipt.committedText tx name ++ "\n"))

theorem committedNote_course (tx : Transaction) :
    ledger.NoteCourse tx (ledger.committedNote tx) := by
  by_cases odd : Receipt.IsOddlyReferenced tx
  · rw [committedNote_odd ledger odd]
    exact .odd odd
  rcases Decimal.fits_or_not (Receipt.numbers tx) with legible | long
  · rw [committedNote_legible ledger odd legible]
    cases called : ledger.name with
    | text name => exact .said legible called
    | _ => exact .nameless legible (by rw [called]; rfl)
  · rw [committedNote_illegible ledger odd long]
    exact .illegible odd long

end Note

variable {ledger after : Ledger} {proposal : Proposal} {tx : Transaction}

section Committed

variable (made : ledger.commit proposal = .ok (tx, after))
include made

theorem commitAloud_silent (silent : ledger.verbose = false) :
    ledger.commitAloud proposal = (.ok tx, after) := by
  rw [commitAloud, made, silent]
  rfl

theorem commitAloud_verbose (verbose : ledger.verbose = true) :
    ledger.commitAloud proposal = ((fun _ => tx) <$> after.committedNote tx, after) := by
  rw [commitAloud, made, verbose]
  rfl

/-- A verbose ledger answers a commit by what it comes to when it is to say what it
committed. -/
theorem commitAloud_course (verbose : ledger.verbose = true) :
    ∃ note, ledger.NoteCourse tx note ∧
      ledger.commitAloud proposal = ((fun _ => tx) <$> note, after) := by
  have course := committedNote_course after tx
  have name : after.name = ledger.name := by rw [commit_frame made]
  refine ⟨after.committedNote tx, ?_, commitAloud_verbose made verbose⟩
  generalize after.committedNote tx = note at course
  cases course with
  | odd odd => exact .odd odd
  | illegible plain long => exact .illegible plain long
  | nameless legible nameless => exact .nameless legible (by rw [← name, nameless])
  | said legible called => exact .said legible (name.symm.trans called)

/-- A commit is answered with its transaction, unless the ledger is verbose and cannot show this
one: for a reference or a name that is no text, or for a number that is too long. -/
theorem commitAloud_cases :
    (ledger.commitAloud proposal).1 = .ok tx ∨
      ledger.verbose = true ∧
        ((ledger.commitAloud proposal).1 = .error .wrongKind ∧
            (Receipt.IsOddlyReferenced tx ∨ ledger.name.asText? = none) ∨
          (ledger.commitAloud proposal).1 = .error .unwritable ∧
            ∃ n ∈ Receipt.numbers tx, Decimal.fits n = false) := by
  cases verbose : ledger.verbose with
  | false => exact Or.inl (by rw [commitAloud_silent made verbose])
  | true =>
      obtain ⟨note, course, answered⟩ := commitAloud_course made verbose
      rw [answered]
      cases course with
      | odd odd => exact Or.inr ⟨rfl, Or.inl ⟨rfl, Or.inl odd⟩⟩
      | illegible plain long => exact Or.inr ⟨rfl, Or.inr ⟨rfl, long⟩⟩
      | nameless legible nameless => exact Or.inr ⟨rfl, Or.inl ⟨rfl, Or.inr nameless⟩⟩
      | said legible called => exact Or.inl rfl

/-- A commit without a reference whose numbers can be written is answered with its transaction
just when the ledger can report anything. -/
theorem commitAloud_unreferenced (unreferenced : proposal.reference = .null)
    (legible : ledger.verbose = true → Receipt.IsLegible tx) :
    (ledger.cannotReport → ledger.commitAloud proposal = (.error .wrongKind, after)) ∧
      (¬ledger.cannotReport → ledger.commitAloud proposal = (.ok tx, after)) := by
  cases verbose : ledger.verbose with
  | false =>
      exact ⟨fun silent => absurd silent (not_cannotReport_of_silent verbose),
        fun _ => commitAloud_silent made verbose⟩
  | true =>
      obtain ⟨note, course, answered⟩ := commitAloud_course made verbose
      rw [answered]
      cases course with
      | odd odd =>
          have present := odd.1
          rw [(commit_ok made).1] at present
          change proposal.reference.isPresent = true at present
          rw [unreferenced] at present
          cases present
      | illegible plain long =>
          exact absurd long (Decimal.not_long_of_fits (legible verbose))
      | nameless legible nameless =>
          exact ⟨fun _ => rfl, fun reports => absurd ⟨verbose, nameless⟩ reports⟩
      | said legible called =>
          exact ⟨fun silent => absurd silent (not_cannotReport_of_named called), fun _ => rfl⟩

end Committed

/-- What is answered with a transaction has committed it, on a ledger that could show it if it
was to. -/
theorem commitAloud_eq_ok (h : ledger.commitAloud proposal = (.ok tx, after)) :
    ledger.commit proposal = .ok (tx, after) ∧ ¬ledger.cannotReport ∧
      (ledger.verbose = true → Receipt.IsLegible tx) := by
  cases made : ledger.commit proposal with
  | error fault =>
      rw [commitAloud_error ledger made] at h
      cases h
  | ok result =>
      obtain ⟨recorded, reached⟩ := result
      obtain rfl : reached = after :=
        (commitAloud_ok ledger made).symm.trans (congrArg Prod.snd h)
      cases verbose : ledger.verbose with
      | false =>
          rw [commitAloud_silent made verbose] at h
          cases h
          exact ⟨rfl, not_cannotReport_of_silent verbose, nofun⟩
      | true =>
          obtain ⟨note, course, answered⟩ := commitAloud_course made verbose
          rw [answered] at h
          cases course with
          | said legible called =>
              cases h
              exact ⟨rfl, not_cannotReport_of_named called, fun _ => legible⟩
          | _ => cases h

end Ledger

end DoubleEntry
