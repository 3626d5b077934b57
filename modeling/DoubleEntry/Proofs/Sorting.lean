import Mathlib.Data.List.Basic

/-!
# Sorting by a number

Values in the order of their numbers. Where numbers are equal the order stays as it is, so
that values with the least number come first, as they stand.
-/

namespace DoubleEntry

variable {α β : Type} {number : α → Nat}

/-- The values of a list in the order of their numbers. -/
def sortedBy (number : α → Nat) (values : List α) : List α :=
  values.mergeSort fun a b => number a ≤ number b

/-- A value in front is put behind the smaller ones. -/
theorem sortedBy_cons (first : α) (rest : List α) :
    sortedBy number (first :: rest) =
      (sortedBy number rest).takeWhile (number · < number first) ++
        first :: (sortedBy number rest).dropWhile (number · < number first) := by
  have transitive (a b c : α) : decide (number a ≤ number b) = true →
      decide (number b ≤ number c) = true → decide (number a ≤ number c) = true := by
    simp only [decide_eq_true_eq]
    exact Nat.le_trans
  have total (a b : α) : (decide (number a ≤ number b) || decide (number b ≤ number a)) = true := by
    simp only [Bool.or_eq_true, decide_eq_true_eq]
    exact Nat.le_total _ _
  obtain ⟨smaller, larger, whole, split, before⟩ :=
    List.mergeSort_cons transitive total first rest
  have sorted := List.pairwise_mergeSort transitive total (first :: rest)
  rw [whole] at sorted
  have behind := (List.pairwise_cons.mp (List.pairwise_append.mp sorted).2.1).1
  have below : ∀ x ∈ smaller, decide (number x < number first) = true := by
    intro x mem
    have := before x mem
    simp_all
  have ends : larger.takeWhile (number · < number first) = [] ∧
      larger.dropWhile (number · < number first) = larger := by
    cases larger with
    | nil => exact ⟨rfl, rfl⟩
    | cons next later =>
        have least : number first ≤ number next := of_decide_eq_true (behind next List.mem_cons_self)
        simp [Nat.not_lt.mpr least]
  rw [sortedBy, sortedBy, whole, split, List.takeWhile_append_of_pos below,
    List.dropWhile_append_of_pos below, ends.1, ends.2, List.append_nil]

theorem mem_sortedBy {values : List α} {x : α} : x ∈ sortedBy number values ↔ x ∈ values :=
  (List.mergeSort_perm values _).mem_iff

theorem sortedBy_eq_nil {values : List α} : sortedBy number values = [] ↔ values = [] := by
  simp only [List.eq_nil_iff_forall_not_mem, mem_sortedBy]

/-- To add to all numbers changes nothing in the order. -/
theorem sortedBy_map {f : α → β} {other : β → Nat} {offset : Nat}
    (moved : ∀ a, other (f a) = offset + number a) (values : List α) :
    sortedBy other (values.map f) = (sortedBy number values).map f := by
  refine (List.map_mergeSort fun a _ b _ => ?_).symm
  rw [moved, moved, decide_eq_decide]
  exact (Nat.add_le_add_iff_left).symm

/-- A value that no other is below comes first, unless it stands behind an equal one. -/
theorem sortedBy_least {front back : List α} {x : α} (above : ∀ y ∈ front, number x < number y)
    (least : ∀ y ∈ back, number x ≤ number y) :
    sortedBy number (front ++ x :: back) = x :: sortedBy number (front ++ back) := by
  induction front with
  | nil =>
      rw [List.nil_append, List.nil_append, sortedBy_cons]
      have none : ∀ y ∈ sortedBy number back, ¬decide (number y < number x) = true := by
        intro y mem
        rw [decide_eq_true_eq, Nat.not_lt]
        exact least y (mem_sortedBy.mp mem)
      cases sorted : sortedBy number back with
      | nil => rfl
      | cons next later =>
          have next := none next (sorted ▸ List.mem_cons_self)
          rw [List.takeWhile_cons_of_neg (p := (number · < number x)) next,
            List.dropWhile_cons_of_neg (p := (number · < number x)) next]
          rfl
  | cons first rest ih =>
      obtain ⟨here, others⟩ := List.forall_mem_cons.mp above
      have passed : decide (number x < number first) = true := decide_eq_true here
      rw [List.cons_append, sortedBy_cons, ih others,
        List.takeWhile_cons_of_pos (p := (number · < number first)) passed,
        List.dropWhile_cons_of_pos (p := (number · < number first)) passed, List.cons_append,
        List.cons_append, sortedBy_cons]

/-- Values with the least number come first, as they stand. -/
theorem sortedBy_append {front block back : List α} {n : Nat} (same : ∀ x ∈ block, number x = n)
    (above : ∀ y ∈ front, n < number y) (least : ∀ y ∈ back, n ≤ number y) :
    sortedBy number (front ++ (block ++ back)) = block ++ sortedBy number (front ++ back) := by
  induction block with
  | nil => rfl
  | cons x rest ih =>
      obtain ⟨here, others⟩ := List.forall_mem_cons.mp same
      subst here
      have behind : ∀ y ∈ rest ++ back, number x ≤ number y :=
        List.forall_mem_append.mpr ⟨fun y mem => Nat.le_of_eq (others y mem).symm, least⟩
      rw [List.cons_append, sortedBy_least above behind, ih others, List.cons_append]

end DoubleEntry
