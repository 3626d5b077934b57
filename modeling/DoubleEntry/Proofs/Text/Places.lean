import DoubleEntry.Proofs.Text.Passing
import Mathlib.Data.List.Pairwise

/-!
# Places

Where a search finds what it finds. Each value is read where it stands, the texts that were
read follow each other without overlap, and a place at which the reader would succeed is
passed over only if it lies within such a text.
-/

namespace DoubleEntry

namespace Found

variable {α : Type}

/-- Whether a place lies within the text of a found value, behind its beginning. -/
def covers (found : Found α) (place : Nat) : Prop := found.start < place ∧ place < found.stop

end Found

namespace Search

variable {α : Type} {gate : Gate} {r : Reader α}

theorem lastOf_eq (before : Option CodePoint) (front : Text) :
    lastOf before front = front.getLast?.or before := by
  induction front generalizing before with
  | nil => rfl
  | cons c rest ih =>
      rw [lastOf, ih, List.getLast?_cons]
      cases rest.getLast? <;> rfl

theorem lastOf_of_ne_nil {w : Text} (some_ : w ≠ []) (before : Option CodePoint) :
    lastOf before w = w.getLast? := by
  rw [lastOf_eq, List.getLast?_eq_some_getLast some_]
  rfl

/-- How a search walks through a text: it passes over a character where the place is closed
or nothing can be read, and else takes the text that was read. -/
inductive Walk (gate : Gate) (r : Reader α) : Option CodePoint → Text → List (Part α) → Prop
  | done {before : Option CodePoint} : Walk gate r before [] []
  | pass {before : Option CodePoint} {c : CodePoint} {rest : Text} {found : List (Part α)}
      (fails : gate before = true → r (c :: rest) = none) (later : Walk gate r (some c) rest found) :
      Walk gate r before (c :: rest) (.plain c :: found)
  | read {before : Option CodePoint} {w after : Text} {value : α} {found : List (Part α)}
      (isOpen : gate before = true) (some_ : w ≠ [])
      (read : r (w ++ after) = some (value, after))
      (later : Walk gate r (lastOf before w) after found) :
      Walk gate r before (w ++ after) (.hit w value :: found)

theorem walk_parts (takes : r.TakesFront) (before : Option CodePoint) (t : Text) :
    Walk gate r before t (parts gate r before t) := by
  generalize size : t.length = n
  induction n using Nat.strong_induction_on generalizing before t with
  | _ n ih =>
      subst size
      cases t with
      | nil =>
          rw [parts]
          exact Walk.done
      | cons c rest =>
          cases tried : (if gate before then r (c :: rest) else none) with
          | none =>
              rw [parts, tried]
              refine Walk.pass (fun isOpen => ?_) (ih rest.length (by simp) _ rest rfl)
              rw [if_pos isOpen] at tried
              exact tried
          | some result =>
              obtain ⟨value, after⟩ := result
              obtain ⟨isOpen, read⟩ := Option.ite_none_right_eq_some.mp tried
              obtain ⟨w, some_, split⟩ := takes read
              rw [split] at read ⊢
              rw [parts_some isOpen some_ read, ← lastOf_of_ne_nil some_ before]
              refine Walk.read isOpen some_ read (ih after.length ?_ _ after rfl)
              rw [split, List.length_append]
              have := List.length_pos_iff.mpr some_
              omega

/-! ## Every value that was found -/

/-- What a search finds was read at an open place in the text. -/
theorem Walk.sound {before : Option CodePoint} {t : Text} {steps : List (Part α)}
    (walk : Walk gate r before t steps) {start : Nat} {found : Found α}
    (mem : found ∈ located start steps) :
    ∃ front rest, t = front ++ (found.text ++ rest) ∧ found.start = start + front.length ∧
      gate (lastOf before front) = true ∧ r (found.text ++ rest) = some (found.value, rest) := by
  induction walk generalizing start with
  | done => cases mem
  | @pass before c rest steps fails later ih =>
      obtain ⟨front, behind, split, place, isOpen, read⟩ := ih mem
      refine ⟨c :: front, behind, ?_, ?_, isOpen, read⟩
      · rw [split, List.cons_append]
      · rw [place, List.length_cons]
        omega
  | @read before w after value steps isOpen some_ read later ih =>
      rcases List.mem_cons.mp mem with rfl | further
      · exact ⟨[], after, rfl, rfl, isOpen, read⟩
      · obtain ⟨front, behind, split, place, gated, read⟩ := ih further
        refine ⟨w ++ front, behind, ?_, ?_, ?_, read⟩
        · rw [split, List.append_assoc]
        · rw [place, List.length_append, Nat.add_assoc]
        · rw [lastOf_append]
          exact gated

/-- Where the reader succeeds at an open place, a value begins there or stands over it. -/
theorem Walk.complete {before : Option CodePoint} {t : Text} {steps : List (Part α)}
    (walk : Walk gate r before t steps) {front back : Text} (split : t = front ++ back)
    (isOpen : gate (lastOf before front) = true) (some_ : back ≠ [])
    (reads : (r back).isSome = true) (start : Nat) :
    ∃ found ∈ located start steps,
      found.start = start + front.length ∨ found.covers (start + front.length) := by
  induction walk generalizing front start with
  | done => exact absurd (List.append_eq_nil_iff.mp split.symm).2 some_
  | @pass before c rest steps fails later ih =>
      cases front with
      | nil =>
          rw [← List.nil_append back, ← split, fails isOpen] at reads
          cases reads
      | cons d front =>
          obtain ⟨rfl, behind⟩ := List.cons.inj split
          obtain ⟨found, mem, place⟩ := ih behind isOpen (start + 1)
          have same : start + 1 + front.length = start + (c :: front).length := by
            rw [List.length_cons]
            omega
          rw [same] at place
          exact ⟨found, mem, place⟩
  | @read before w after value steps opened some_ read later ih =>
      by_cases within : front.length < w.length
      · refine ⟨⟨start, w, value⟩, List.mem_cons_self, ?_⟩
        rcases Nat.eq_zero_or_pos front.length with first | inside
        · exact Or.inl (by rw [first, Nat.add_zero])
        · refine Or.inr ⟨?_, ?_⟩
          · dsimp only
            omega
          · rw [Found.stop]
            dsimp only
            omega
      · obtain ⟨beyond, rfl⟩ : w <+: front :=
          List.prefix_of_prefix_length_le ⟨after, rfl⟩ ⟨back, split.symm⟩ (Nat.le_of_not_lt within)
        rw [List.append_assoc] at split
        rw [lastOf_append] at isOpen
        obtain ⟨found, mem, place⟩ :=
          ih (List.append_cancel_left split) isOpen (start + w.length)
        have same : start + w.length + beyond.length = start + (w ++ beyond).length := by
          rw [List.length_append]
          omega
        rw [same] at place
        exact ⟨found, List.mem_cons_of_mem _ mem, place⟩

theorem le_start {start : Nat} {steps : List (Part α)} {found : Found α}
    (mem : found ∈ located start steps) : start ≤ found.start := by
  induction steps generalizing start with
  | nil => cases mem
  | cons step rest ih =>
      cases step with
      | plain c => exact Nat.le_of_succ_le (ih mem)
      | hit w value =>
          rcases List.mem_cons.mp mem with rfl | later
          · exact Nat.le_refl _
          · exact Nat.le_trans (Nat.le_add_right _ _) (ih later)

/-- Found values follow each other without overlap. -/
theorem pairwise_located (start : Nat) (steps : List (Part α)) :
    (located start steps).Pairwise fun earlier later => earlier.stop ≤ later.start := by
  induction steps generalizing start with
  | nil => exact List.Pairwise.nil
  | cons step rest ih =>
      cases step with
      | plain c => exact ih (start + 1)
      | hit w value =>
          exact List.pairwise_cons.mpr ⟨fun found mem => le_start mem, ih (start + w.length)⟩

/-- Nothing that is found begins before what is found first. -/
theorem start_le_of_head {found other : Found α} {t : Text}
    (initial : (all gate r t).head? = some found) (mem : other ∈ all gate r t) :
    found.start ≤ other.start := by
  obtain ⟨others, listing⟩ := List.head?_eq_some_iff.mp initial
  have apart : (all gate r t).Pairwise fun earlier later => earlier.stop ≤ later.start :=
    pairwise_located 0 _
  rw [listing] at mem apart
  rcases List.mem_cons.mp mem with rfl | later
  · exact Nat.le_refl _
  · exact Nat.le_trans (Nat.le_add_right _ _) ((List.pairwise_cons.mp apart).1 other later)

theorem apart_of_ne {found other : Found α} {t : Text} (mem : found ∈ all gate r t)
    (listed : other ∈ all gate r t) (different : found ≠ other) :
    found.stop ≤ other.start ∨ other.stop ≤ found.start := by
  have symmetric : Std.Symm fun a b : Found α => a.stop ≤ b.start ∨ b.stop ≤ a.start :=
    ⟨fun _ _ => Or.symm⟩
  have apart : (all gate r t).Pairwise fun a b => a.stop ≤ b.start ∨ b.stop ≤ a.start :=
    (pairwise_located 0 _).imp Or.inl
  exact apart.forall mem listed different

/-! ## Searching a whole text -/

section All

variable (takes : r.TakesFront) {t : Text}
include takes

/-- What is found in a text was read where it stands. -/
theorem all_sound {found : Found α} (mem : found ∈ all gate r t) :
    ∃ front rest, t = front ++ (found.text ++ rest) ∧ found.start = front.length ∧
      gate front.getLast? = true ∧ r (found.text ++ rest) = some (found.value, rest) := by
  obtain ⟨front, rest, split, place, isOpen, read⟩ := (walk_parts takes none t).sound mem
  rw [lastOf_eq, Option.or_none] at isOpen
  exact ⟨front, rest, split, place.trans (Nat.zero_add _), isOpen, read⟩

/-- Where a value can be read at an open place, one is found that begins there or that
stands over the place. -/
theorem all_complete {front back : Text} (isOpen : gate front.getLast? = true)
    (reads : (r back).isSome = true) :
    ∃ found ∈ all gate r (front ++ back),
      found.start = front.length ∨ found.covers front.length := by
  obtain ⟨⟨value, rest⟩, read⟩ := Option.isSome_iff_exists.mp reads
  obtain ⟨w, nonempty, taken⟩ := takes read
  have some_ : back ≠ [] := by
    rw [taken]
    exact List.append_ne_nil_of_left_ne_nil nonempty rest
  rw [← Option.or_none (o := front.getLast?), ← lastOf_eq] at isOpen
  have found := (walk_parts takes none (front ++ back)).complete rfl isOpen some_ reads 0
  rw [Nat.zero_add] at found
  exact found

theorem start_lt_stop {found : Found α} (mem : found ∈ all gate r t) :
    found.start < found.stop := by
  obtain ⟨front, rest, -, -, -, read⟩ := all_sound takes mem
  obtain ⟨w, some_, split⟩ := takes read
  obtain rfl := List.append_cancel_right split
  exact Nat.lt_add_of_pos_right (List.length_pos_iff.mpr some_)

/-- No two values begin at one place, and they are listed in the order of their places. -/
theorem pairwise_starts : ((all gate r t).map Found.start).Pairwise (· < ·) := by
  rw [List.pairwise_map]
  refine (pairwise_located 0 _).imp_of_mem fun {earlier later} mem _ apart => ?_
  exact Nat.lt_of_lt_of_le (start_lt_stop takes mem) apart

end All

/-! ## Scans -/

/-- Whether values are those that a reader finds from left to right: each was read at an open
place, a place where the reader succeeds begins one or is covered by one, and none overlaps
another. -/
structure IsScan (gate : Gate) (r : Reader α) (t : Text) (found : List (Found α)) : Prop where
  sound : ∀ each ∈ found, ∃ front rest, t = front ++ (each.text ++ rest) ∧
    each.start = front.length ∧ gate front.getLast? = true ∧
      r (each.text ++ rest) = some (each.value, rest)
  complete : ∀ front back, t = front ++ back → gate front.getLast? = true →
    (r back).isSome = true → ∃ each ∈ found, each.start = front.length ∨ each.covers front.length
  apart : found.Pairwise fun earlier later => earlier.stop ≤ later.start

theorem isScan_all (gate : Gate) (takes : r.TakesFront) (t : Text) :
    IsScan gate r t (all gate r t) where
  sound _ mem := all_sound takes mem
  complete _ _ split isOpen reads := split ▸ all_complete takes isOpen reads
  apart := pairwise_located 0 _

/-- What was found stands in the text at its place. -/
theorem IsScan.slice {t : Text} {found : List (Found α)} (scan : IsScan gate r t found)
    {each : Found α} (mem : each ∈ found) :
    each.stop ≤ t.length ∧ (t.take each.stop).drop each.start = each.text := by
  obtain ⟨front, rest, rfl, start, -⟩ := scan.sound each mem
  constructor
  · rw [Found.stop, start, ← List.append_assoc, List.length_append, List.length_append]
    exact Nat.le_add_right _ _
  · rw [Found.stop, start, ← List.append_assoc, ← List.length_append, List.take_left,
      List.drop_left]

end Search

end DoubleEntry
