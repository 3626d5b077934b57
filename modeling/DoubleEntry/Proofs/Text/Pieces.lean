import DoubleEntry.Text.Basic
import Mathlib.Data.List.Count
import Mathlib.Data.List.Forall2

/-!
# Texts in pieces

A separating character takes every text apart into pieces without it, and there is only one
way to do so. What is changed piece by piece in a text can therefore be told from the text
before and the text after.
-/

namespace DoubleEntry.Text

variable {separator : CodePoint}

/-! ## The pieces of a text -/

theorem pieces_of_notMem {t : Text} (absent : separator ∉ t) : pieces separator t = [t] := by
  induction t with
  | nil => rfl
  | cons first rest ih =>
      obtain ⟨other, later⟩ := not_or.mp (mt List.mem_cons.mpr absent)
      simp [pieces, Ne.symm other, ih later]

/-- The text in front of the first separator is the first piece. -/
theorem pieces_append {first : Text} (absent : separator ∉ first) (rest : Text) :
    pieces separator (first ++ separator :: rest) = first :: pieces separator rest := by
  induction first with
  | nil => rw [List.nil_append, pieces, if_pos rfl]
  | cons c later ih =>
      obtain ⟨other, behind⟩ := not_or.mp (mt List.mem_cons.mpr absent)
      rw [List.cons_append, pieces, if_neg (Ne.symm other), ih behind]

theorem notMem_of_mem_pieces {t piece : Text} (mem : piece ∈ pieces separator t) :
    separator ∉ piece := by
  induction t generalizing piece with
  | nil =>
      rw [List.mem_singleton.mp mem]
      exact List.not_mem_nil
  | cons c rest ih =>
      rw [pieces] at mem
      split at mem <;> rename_i here
      · rcases List.mem_cons.mp mem with rfl | later
        · exact List.not_mem_nil
        · exact ih later
      · obtain ⟨first, others, parts⟩ := List.exists_cons_of_ne_nil (pieces_ne_nil separator rest)
        rw [parts] at mem ih
        rcases List.mem_cons.mp mem with rfl | later
        · rw [List.mem_cons, not_or]
          exact ⟨Ne.symm here, ih List.mem_cons_self⟩
        · exact ih (List.mem_cons_of_mem _ later)

/-- Pieces without the separator are found again in the text that joins them. -/
theorem pieces_join {parts : List Text} (nonempty : parts ≠ [])
    (free : ∀ part ∈ parts, separator ∉ part) :
    pieces separator (join [separator] parts) = parts := by
  induction parts with
  | nil => exact absurd rfl nonempty
  | cons part rest ih =>
      obtain ⟨here, later⟩ := List.forall_mem_cons.mp free
      cases rest with
      | nil => exact pieces_of_notMem here
      | cons next more =>
          rw [join, List.append_assoc, List.singleton_append, pieces_append here,
            ih (List.cons_ne_nil _ _) later]

/-- There is one piece more than there are separators. -/
theorem length_pieces (t : Text) : (pieces separator t).length = t.count separator + 1 := by
  induction t with
  | nil => rfl
  | cons c rest ih =>
      rw [pieces]
      split <;> rename_i here
      · rw [List.length_cons, ih, here, List.count_cons_self]
      · obtain ⟨first, others, parts⟩ := List.exists_cons_of_ne_nil (pieces_ne_nil separator rest)
        rw [parts] at ih ⊢
        rw [List.count_cons_of_ne here, ← ih]
        rfl

/-! ## Changes piece by piece -/

/-- Whether one text is made from another by changing its pieces: both are joined from pieces
without the separator, and each piece of the one became the piece of the other in its
place. -/
def Piecewise (separator : CodePoint) (change : Text → Text → Prop) (before after : Text) :
    Prop :=
  ∃ parts changed, parts ≠ [] ∧ (∀ part ∈ parts, separator ∉ part) ∧
    (∀ part ∈ changed, separator ∉ part) ∧ List.Forall₂ change parts changed ∧
    before = join [separator] parts ∧ after = join [separator] changed

variable {change : Text → Text → Prop}

/-- The pieces of both texts are those that were changed. -/
theorem piecewise_iff {before after : Text} :
    Piecewise separator change before after ↔
      List.Forall₂ change (pieces separator before) (pieces separator after) := by
  constructor
  · rintro ⟨parts, changed, nonempty, free, still, became, rfl, rfl⟩
    have remaining : changed ≠ [] := by
      rintro rfl
      exact nonempty (List.forall₂_nil_right_iff.mp became)
    rwa [pieces_join nonempty free, pieces_join remaining still]
  · intro became
    exact ⟨_, _, pieces_ne_nil separator before, fun _ => notMem_of_mem_pieces,
      fun _ => notMem_of_mem_pieces, became, (join_pieces separator before).symm,
      (join_pieces separator after).symm⟩

theorem piecewise_self (unchanged : ∀ part, change part part) (t : Text) :
    Piecewise separator change t t :=
  piecewise_iff.mpr (List.forall₂_same.mpr fun part _ => unchanged part)

/-- Nothing is done to separators, so there are as many as before. -/
theorem Piecewise.count_eq {before after : Text}
    (changed : Piecewise separator change before after) :
    after.count separator = before.count separator := by
  have same := (piecewise_iff.mp changed).length_eq
  rw [length_pieces, length_pieces] at same
  exact (Nat.succ.inj same).symm

/-- If two changes of a piece lead to texts that a third change leads between, then so do these
changes of a text. -/
theorem Piecewise.between {other third : Text → Text → Prop} {t one two : Text}
    (first : Piecewise separator change t one) (second : Piecewise separator other t two)
    (leads : ∀ part a b, change part a → other part b → third b a) :
    Piecewise separator third two one := by
  rw [piecewise_iff] at first second ⊢
  generalize pieces separator t = parts at first second
  generalize pieces separator one = ones at first
  generalize pieces separator two = twos at second
  induction first generalizing twos with
  | nil =>
      cases second
      exact List.Forall₂.nil
  | cons here _ ih =>
      cases second with
      | cons there later => exact List.Forall₂.cons (leads _ _ _ here there) (ih _ later)

end DoubleEntry.Text
