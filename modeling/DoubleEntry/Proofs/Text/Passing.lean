import DoubleEntry.Proofs.Sorting
import DoubleEntry.Proofs.Text.Search
import Mathlib.Data.List.Infix

/-!
# Passing over texts

A search passes over a text in front in which nothing can be read that begins there. It
then finds what it finds in the rest alone, only further behind.
-/

namespace DoubleEntry

variable {α : Type}

/-- The same value, found further behind. -/
def Found.shift (offset : Nat) (found : Found α) : Found α :=
  { found with start := offset + found.start }

namespace Search

variable {gate : Gate} {r : Reader α}

/-- Whether a reader can be tried at a place in a text and succeeds there, given what comes
before and after the text. -/
def beginsIn (gate : Gate) (r : Reader α) : Option CodePoint → Text → Text → Bool
  | _, [], _ => false
  | before, c :: rest, after =>
    gate before && (r (c :: rest ++ after)).isSome || beginsIn gate r (some c) rest after

/-- What stands before the place behind a text: its last character, if it has any. -/
def lastOf : Option CodePoint → Text → Option CodePoint
  | before, [] => before
  | _, c :: rest => lastOf (some c) rest

theorem lastOf_append (before : Option CodePoint) (front back : Text) :
    lastOf before (front ++ back) = lastOf (lastOf before front) back := by
  induction front generalizing before with
  | nil => rfl
  | cons c rest ih => exact ih (some c)

theorem beginsIn_append (before : Option CodePoint) (front back after : Text) :
    beginsIn gate r before (front ++ back) after =
      (beginsIn gate r before front (back ++ after) ||
        beginsIn gate r (lastOf before front) back after) := by
  induction front generalizing before with
  | nil => rfl
  | cons c rest ih =>
      rw [List.cons_append, beginsIn, beginsIn, ih, lastOf, Bool.or_assoc, ← List.cons_append,
        List.append_assoc]

theorem parts_append {before : Option CodePoint} {front after : Text}
    (passed : beginsIn gate r before front after = false) :
    parts gate r before (front ++ after) =
      front.map Part.plain ++ parts gate r (lastOf before front) after := by
  induction front generalizing before with
  | nil => rfl
  | cons c rest ih =>
      rw [beginsIn, Bool.or_eq_false_iff] at passed
      obtain ⟨here, later⟩ := passed
      have failed : (if gate before then r (c :: (rest ++ after)) else none) = none := by
        split
        · next isOpen =>
            rw [isOpen, Bool.true_and] at here
            exact Option.not_isSome_iff_eq_none.mp (Bool.eq_false_iff.mp here)
        · rfl
      rw [List.cons_append, parts, failed]
      dsimp only
      rw [ih later]
      rfl

theorem located_plain (start : Nat) (front : Text) (found : List (Part α)) :
    located start (front.map Part.plain ++ found) = located (start + front.length) found := by
  induction front generalizing start with
  | nil => rfl
  | cons c rest ih =>
      rw [List.map_cons, List.cons_append, located, ih, List.length_cons]
      congr 1
      omega

theorem located_add (offset start : Nat) (found : List (Part α)) :
    located (offset + start) found = (located start found).map (Found.shift offset) := by
  induction found generalizing start with
  | nil => rfl
  | cons part rest ih =>
      cases part with
      | plain c => exact ih (start + 1)
      | hit text value =>
          rw [located, located, List.map_cons, ← ih, Nat.add_assoc]
          rfl

/-- Nothing begins in a text if what a reader begins with clashes with every end of it. -/
theorem beginsIn_of_clash {w : Text} (needs : ∀ t, ¬w <+: t → r t = none) {t : Text}
    (clash : ∀ rest ∈ t.tails, rest = [] ∨ ¬w <+: rest ∧ ¬rest <+: w)
    (before : Option CodePoint) (after : Text) : beginsIn gate r before t after = false := by
  induction t generalizing before with
  | nil => rfl
  | cons c rest ih =>
      rw [List.tails_cons, List.forall_mem_cons] at clash
      obtain ⟨here, later⟩ := clash
      obtain ⟨long, short⟩ := here.resolve_left (List.cons_ne_nil c rest)
      have unlike : ¬w <+: c :: rest ++ after := fun front =>
        (List.prefix_or_prefix_of_prefix front (List.prefix_append _ after)).elim long short
      rw [beginsIn, needs _ unlike, ih later, Option.isSome_none, Bool.and_false, Bool.or_false]

/-- Nothing begins in a text without the letter that a reader begins with. -/
theorem beginsIn_of_notMem {letter : CodePoint} (needs : ∀ t, t.head? ≠ some letter → r t = none)
    {t : Text} (free : letter ∉ t) (before : Option CodePoint) (after : Text) :
    beginsIn gate r before t after = false := by
  induction t generalizing before with
  | nil => rfl
  | cons c rest ih =>
      obtain ⟨here, later⟩ := not_or.mp (mt List.mem_cons.mpr free)
      have unlike : (c :: rest ++ after).head? ≠ some letter :=
        fun same => here (Option.some.inj same).symm
      rw [beginsIn, needs _ unlike, ih later, Option.isSome_none, Bool.and_false, Bool.or_false]

/-- Nothing begins in a text without the word that a reader begins with, if what comes next
does not belong to the word. -/
theorem beginsIn_of_free {w : Text} (needs : ∀ t, ¬w <+: t → r t = none) {t : Text}
    (free : ¬w <:+: t) {stop : CodePoint} (foreign : stop ∉ w) (before : Option CodePoint)
    (after : Text) : beginsIn gate r before t (stop :: after) = false := by
  induction t generalizing before with
  | nil => rfl
  | cons c rest ih =>
      rw [List.infix_cons_iff, not_or] at free
      have unlike : ¬w <+: c :: rest ++ stop :: after := by
        intro front
        rcases List.prefix_or_prefix_of_prefix front (List.prefix_append _ _) with inside | beyond
        · exact free.1 inside
        · obtain ⟨more, rfl⟩ := beyond
          cases more with
          | nil => exact free.1 (by rw [List.append_nil])
          | cons d more =>
              have next := (List.prefix_append_right_inj _).mp front
              obtain rfl := (List.cons_prefix_cons.mp next).1
              exact foreign (List.mem_append_right _ List.mem_cons_self)
      rw [beginsIn, needs _ unlike, ih free.2, Option.isSome_none, Bool.and_false, Bool.or_false]

/-- Behind a text that is passed over everything is found as if the text were not there. -/
theorem all_append {front after : Text} (passed : beginsIn gate r none front after = false)
    (same : gate (lastOf none front) = gate none) :
    all gate r (front ++ after) = (all gate r after).map (Found.shift front.length) := by
  rw [all, parts_append passed, located_plain, parts_congr same, Nat.zero_add]
  exact located_add front.length 0 _

/-- Behind a value and a text that is passed over everything is found as if they were not
there. -/
theorem all_read {w front after : Text} {value : α} (isOpen : gate none = true) (some_ : w ≠ [])
    (read : r (w ++ (front ++ after)) = some (value, front ++ after))
    (passed : beginsIn gate r w.getLast? front after = false)
    (same : gate (lastOf w.getLast? front) = gate none) :
    all gate r (w ++ (front ++ after)) =
      ⟨0, w, value⟩ :: (all gate r after).map (Found.shift (w ++ front).length) := by
  rw [all, parts_some isOpen some_ read, parts_append passed, located, located_plain,
    parts_congr same, Nat.zero_add, ← List.length_append]
  exact congrArg (⟨0, w, value⟩ :: ·) (located_add (w ++ front).length 0 _)

/-! ## Found values in order -/

/-- Found values in the order of their places. -/
def inOrder (found : List (Found α)) : List (Found α) :=
  found.mergeSort fun a b => a.start ≤ b.start

theorem inOrder_shift (offset : Nat) (found : List (Found α)) :
    inOrder (found.map (Found.shift offset)) = (inOrder found).map (Found.shift offset) :=
  @sortedBy_map _ _ Found.start (Found.shift offset) Found.start offset (fun _ => rfl) found

theorem inOrder_cons {first : Found α} {rest : List (Found α)}
    (least : ∀ found ∈ rest, first.start ≤ found.start) :
    inOrder (first :: rest) = first :: inOrder rest :=
  @sortedBy_least _ Found.start [] rest first nofun least

end Search

end DoubleEntry
