import DoubleEntry.Text.Reader

/-!
# Reading in front of more text

What a reader takes off a text depends on what stands behind it only as far as the reader
looks ahead: a row of characters ends where the next one does not belong to it.
-/

namespace DoubleEntry

namespace Reader

variable {α β : Type} {t rest : Text}

/-- Whether no character that satisfies a test comes next. -/
def Ends (test : CodePoint → Bool) (after : Text) : Prop :=
  ∀ c ∈ after.head?, test c = false

theorem ends_nil (test : CodePoint → Bool) : Ends test [] := by
  intro c mem
  cases mem

theorem ends_cons {test : CodePoint → Bool} {c : CodePoint} (h : test c = false) (after : Text) :
    Ends test (c :: after) := by
  intro first mem
  obtain rfl := Option.some.inj mem
  exact h

theorem Ends.append {test : CodePoint → Bool} (h : Ends test t) (some_ : t ≠ []) (after : Text) :
    Ends test (t ++ after) := by
  obtain ⟨c, later, rfl⟩ := List.exists_cons_of_ne_nil some_
  exact ends_cons (h c rfl) _

theorem Ends.mono {test other : CodePoint → Bool} (h : Ends test t)
    (covered : ∀ c, other c = true → test c = true) : Ends other t := by
  intro c mem
  refine Bool.eq_false_iff.mpr fun passed => ?_
  have refused := h c mem
  rw [covered c passed] at refused
  cases refused

/-! ## Steps of a reader -/

theorem bind_some {r : Reader α} {value : α} (h : r t = some (value, rest))
    (next : α → Reader β) : (r >>= next) t = next value rest := by
  change (r t >>= fun found => next found.1 found.2) = next value rest
  rw [h]
  rfl

theorem bind_none {r : Reader α} (h : r t = none) (next : α → Reader β) :
    (r >>= next) t = none := by
  change (r t >>= fun found => next found.1 found.2) = none
  rw [h]
  rfl

theorem map_some {r : Reader α} {value : α} (h : r t = some (value, rest)) (f : α → β) :
    (f <$> r) t = some (f value, rest) := by
  change (r t >>= fun found => some (f found.1, found.2)) = _
  rw [h]
  rfl

theorem map_none {r : Reader α} (h : r t = none) (f : α → β) : (f <$> r) t = none := by
  change (r t >>= fun found => some (f found.1, found.2)) = _
  rw [h]
  rfl

theorem or_some {first : Reader α} {result : α × Text} (h : first t = some result)
    (second : Reader α) : (first <|> second) t = some result := by
  change (first t <|> second t) = some result
  rw [h]
  rfl

theorem or_none {first : Reader α} (h : first t = none) (second : Reader α) :
    (first <|> second) t = second t := by
  change (first t <|> second t) = second t
  rw [h]
  rfl

theorem optional_some {r : Reader α} {value : α} (h : r t = some (value, rest)) :
    optional r t = some (some value, rest) :=
  or_some (map_some h some) _

theorem optional_none {r : Reader α} (h : r t = none) : optional r t = some (none, t) :=
  or_none (map_none h some) _

/-! ## Characters and words -/

theorem char_none {test : CodePoint → Bool} (h : Ends test t) : char test t = none := by
  cases t with
  | nil => rfl
  | cons c later =>
      have failed : test c = false := h c rfl
      rw [char_cons, failed]
      rfl

theorem char_some {test : CodePoint → Bool} {c : CodePoint} (h : test c = true) (after : Text) :
    char test (c :: after) = some (c, after) := by
  rw [char_cons, if_pos h]

theorem word_none {c : CodePoint} (h : t.head? ≠ some c) (w : Text) : word (c :: w) t = none := by
  cases t with
  | nil => rfl
  | cons first later =>
      have other : c ≠ first := fun same => h (congrArg some same.symm)
      simp [word, other]

theorem word_of_not_prefix {w : Text} (unlike : ¬w <+: t) : word w t = none := by
  rw [word, if_neg]
  rw [List.isPrefixOf_iff_prefix]
  exact unlike

section Rows

variable {test : CodePoint → Bool} {w after : Text} (all : ∀ c ∈ w, test c = true)
  (ends : Ends test after)
include all ends

theorem many_append : many test (w ++ after) = some (w, after) := by
  have none : after.takeWhile test = [] ∧ after.dropWhile test = after := by
    cases after with
    | nil => exact ⟨rfl, rfl⟩
    | cons c later =>
        have failed : test c = false := ends c rfl
        simp [failed]
  rw [many_apply, List.takeWhile_append_of_pos all, List.dropWhile_append_of_pos all, none.1,
    none.2, List.append_nil]

theorem many1_append (some_ : w ≠ []) : many1 test (w ++ after) = some (w, after) := by
  have taken := many_append all ends
  rw [many_apply] at taken
  obtain ⟨row, left⟩ := Prod.mk.inj (Option.some.inj taken)
  obtain ⟨c, later, rfl⟩ := List.exists_cons_of_ne_nil some_
  rw [many1, row, left]

end Rows

theorem many1_none {test : CodePoint → Bool} (h : Ends test t) : many1 test t = none := by
  cases t with
  | nil => rfl
  | cons c later =>
      have failed : test c = false := h c rfl
      simp [many1, failed]

section Delimited

variable {opening closing : CodePoint} {inner : Text} (free : closing ∉ inner)
include free

theorem enclosed_append (after : Text) :
    enclosed opening closing (Text.enclosed opening closing inner ++ after) =
      some (inner, after) := by
  have row : many (· ≠ closing) (inner ++ closing :: after) = some (inner, closing :: after) := by
    refine many_append (fun c mem => decide_eq_true ?_) (ends_cons (by simp) after)
    rintro rfl
    exact free mem
  have spelled : Text.enclosed opening closing inner ++ after =
      opening :: (inner ++ closing :: after) := by simp [Text.enclosed]
  rw [spelled, enclosed, bind_some (char_some (by simp) _), bind_some row,
    bind_some (char_some (by simp) _)]
  rfl

theorem enclosed1_append (some_ : inner ≠ []) (after : Text) :
    enclosed1 opening closing (Text.enclosed opening closing inner ++ after) =
      some (inner, after) := by
  have row : many1 (· ≠ closing) (inner ++ closing :: after) = some (inner, closing :: after) := by
    refine many1_append (fun c mem => decide_eq_true ?_) (ends_cons (by simp) after) some_
    rintro rfl
    exact free mem
  have spelled : Text.enclosed opening closing inner ++ after =
      opening :: (inner ++ closing :: after) := by simp [Text.enclosed]
  rw [spelled, enclosed1, bind_some (char_some (by simp) _), bind_some row,
    bind_some (char_some (by simp) _)]
  rfl

end Delimited

/-- Between two delimiters something must stand. -/
theorem enclosed1_nil (opening closing : CodePoint) (after : Text) :
    enclosed1 opening closing (Text.enclosed opening closing [] ++ after) = none := by
  have split : Text.enclosed opening closing [] ++ after = opening :: closing :: after := by
    simp [Text.enclosed]
  rw [split, enclosed1, bind_some (char_some (by simp) _)]
  exact bind_none (many1_none (ends_cons (by simp) after)) _

theorem withText_append {r : Reader α} {w after : Text} {value : α}
    (h : r (w ++ after) = some (value, after)) :
    withText r (w ++ after) = some ((value, w), after) := by
  rw [withText, h]
  simp

end Reader

end DoubleEntry
