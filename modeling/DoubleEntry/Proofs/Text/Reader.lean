import DoubleEntry.Text.Reader

/-!
# Verbatim readers

A reader is verbatim if the text that it reads is the text that it takes. A search that
puts such texts in the place of what was found changes nothing.
-/

namespace DoubleEntry

namespace Reader

variable {α β : Type}

theorem bind_eq_some {r : Reader α} {next : α → Reader β} {t : Text} {result : β × Text} :
    (r >>= next) t = some result ↔
      ∃ value mid, r t = some (value, mid) ∧ next value mid = some result := by
  constructor
  · intro h
    obtain ⟨⟨value, mid⟩, read, later⟩ := Option.bind_eq_some_iff.mp h
    exact ⟨value, mid, read, later⟩
  · rintro ⟨value, mid, read, later⟩
    exact Option.bind_eq_some_iff.mpr ⟨(value, mid), read, later⟩

theorem char_eq_some {test : CodePoint → Bool} {t rest : Text} {c : CodePoint}
    (h : char test t = some (c, rest)) : t = c :: rest ∧ test c = true := by
  cases t with
  | nil => cases h
  | cons head tail =>
      rw [char_cons] at h
      split at h
      · next passed =>
          obtain ⟨rfl, rfl⟩ := Prod.mk.inj (Option.some.inj h)
          exact ⟨rfl, passed⟩
      · cases h

theorem word_eq_some {w t rest : Text} (h : word w t = some ((), rest)) : t = w ++ rest := by
  unfold word at h
  split at h
  · next front =>
      obtain ⟨later, rfl⟩ := List.isPrefixOf_iff_prefix.mp front
      obtain rfl := (Prod.mk.inj (Option.some.inj h)).2
      rw [List.drop_left]
  · cases h

theorem many1_eq_some {test : CodePoint → Bool} {t w rest : Text}
    (h : many1 test t = some (w, rest)) : t = w ++ rest := by
  unfold many1 at h
  split at h
  · cases h
  · next c taken first =>
      obtain ⟨rfl, rfl⟩ := Prod.mk.inj (Option.some.inj h)
      rw [← first, List.takeWhile_append_dropWhile]

theorem many1_all {test : CodePoint → Bool} {t w rest : Text}
    (h : many1 test t = some (w, rest)) : w ≠ [] ∧ ∀ c ∈ w, test c = true := by
  unfold many1 at h
  split at h
  · cases h
  · next c taken first =>
      obtain ⟨rfl, -⟩ := Prod.mk.inj (Option.some.inj h)
      refine ⟨List.cons_ne_nil c taken, ?_⟩
      rw [← first]
      exact List.all_eq_true.mp List.all_takeWhile

theorem map_eq_some {r : Reader α} {f : α → β} {t : Text} {result : β × Text}
    (h : (f <$> r) t = some result) : ∃ value, r t = some (value, result.2) ∧ f value = result.1 := by
  obtain ⟨⟨value, rest⟩, read, made⟩ := Option.bind_eq_some_iff.mp h
  obtain rfl := Option.some.inj made
  exact ⟨value, read, rfl⟩

theorem or_eq_some {first second : Reader α} {t : Text} {result : α × Text}
    (h : (first <|> second) t = some result) : first t = some result ∨ second t = some result := by
  change (first t <|> second t) = some result at h
  cases tried : first t with
  | none =>
      rw [tried] at h
      exact Or.inr h
  | some found =>
      rw [tried] at h
      exact Or.inl h

theorem or_isSome {first second : Reader α} {t : Text} (reads : (second t).isSome = true) :
    ((first <|> second) t).isSome = true := by
  change (first t <|> second t).isSome = true
  cases first t with
  | none => exact reads
  | some found => rfl

theorem optional_eq_some {r : Reader α} {t rest : Text} {value : α}
    (h : optional r t = some (some value, rest)) : r t = some (value, rest) := by
  rcases or_eq_some h with read | none
  · obtain ⟨found, read, same⟩ := map_eq_some read
    obtain rfl := Option.some.inj same
    exact read
  · cases none

theorem optional_eq_none {r : Reader α} {t rest : Text}
    (h : optional r t = some (none, rest)) : rest = t := by
  rcases or_eq_some h with read | none
  · obtain ⟨found, -, same⟩ := map_eq_some read
    cases same
  · exact (Prod.mk.inj (Option.some.inj none)).2.symm

theorem enclosed_eq_some {opening closing : CodePoint} {t inner rest : Text}
    (h : enclosed opening closing t = some (inner, rest)) :
    closing ∉ inner ∧ t = Text.enclosed opening closing inner ++ rest := by
  obtain ⟨first, opened, begun, later⟩ := bind_eq_some.mp h
  obtain ⟨row, closed, passed, ended⟩ := bind_eq_some.mp later
  obtain ⟨second, after, stopped, made⟩ := bind_eq_some.mp ended
  obtain ⟨rfl, rfl⟩ := Prod.mk.inj (Option.some.inj made)
  obtain ⟨rfl, isOpening⟩ := char_eq_some begun
  obtain ⟨rfl, isClosing⟩ := char_eq_some stopped
  obtain ⟨rfl, rest⟩ := Prod.mk.inj (Option.some.inj passed)
  rw [decide_eq_true_eq] at isOpening isClosing
  subst isOpening isClosing
  constructor
  · intro mem
    have other := List.all_eq_true.mp List.all_takeWhile _ mem
    simp at other
  · have split : opened = opened.takeWhile (fun c => decide (c ≠ second)) ++ second :: after := by
      rw [← rest, List.takeWhile_append_dropWhile]
    rw [Text.enclosed, List.append_assoc, List.cons_append]
    exact congrArg (first :: ·) split

/-- What is read together with its text is read off this text and what stands behind it. -/
theorem withText_eq_some {r : Reader α} {t rest : Text} {result : α × Text}
    (h : withText r t = some (result, rest)) : r t = some (result.1, rest) ∧ result.2 <+: t := by
  unfold withText at h
  split at h
  · next value after read =>
      obtain ⟨rfl, rfl⟩ := Prod.mk.inj (Option.some.inj h)
      exact ⟨read, List.take_prefix _ t⟩
  · cases h

/-- What was passed over is allowed, and the reader succeeds behind it. -/
theorem upTo_eq_some {allowed : CodePoint → Bool} {r : Reader α} {t passed rest : Text} {value : α}
    (h : upTo allowed r t = some ((passed, value), rest)) :
    ∃ after, t = passed ++ after ∧ (∀ c ∈ passed, allowed c = true) ∧
      r after = some (value, rest) := by
  induction t generalizing passed with
  | nil =>
      unfold upTo at h
      cases read : r [] with
      | none =>
          rw [read] at h
          cases h
      | some result =>
          rw [read] at h
          obtain ⟨rfl, rfl⟩ := Prod.mk.inj (Prod.mk.inj (Option.some.inj h)).1
          obtain rfl := (Prod.mk.inj (Option.some.inj h)).2
          exact ⟨[], rfl, nofun, read⟩
  | cons c later ih =>
      unfold upTo at h
      cases read : r (c :: later) with
      | some result =>
          rw [read] at h
          obtain ⟨rfl, rfl⟩ := Prod.mk.inj (Prod.mk.inj (Option.some.inj h)).1
          obtain rfl := (Prod.mk.inj (Option.some.inj h)).2
          exact ⟨c :: later, rfl, nofun, read⟩
      | none =>
          rw [read] at h
          dsimp only at h
          obtain ⟨may, further⟩ := Option.ite_none_right_eq_some.mp h
          cases behind : upTo allowed r later with
          | none =>
              rw [behind] at further
              cases further
          | some result =>
              rw [behind] at further
              obtain ⟨rfl, rfl⟩ := Prod.mk.inj (Prod.mk.inj (Option.some.inj further)).1
              obtain rfl := (Prod.mk.inj (Option.some.inj further)).2
              obtain ⟨after, split, all, reads⟩ := ih behind
              exact ⟨after, by rw [List.cons_append, ← split],
                List.forall_mem_cons.mpr ⟨may, all⟩, reads⟩

/-- A reader that succeeds behind allowed characters is reached. -/
theorem upTo_isSome {allowed : CodePoint → Bool} {r : Reader α} {passed after : Text}
    (all : ∀ c ∈ passed, allowed c = true) (reads : (r after).isSome = true) :
    (upTo allowed r (passed ++ after)).isSome = true := by
  obtain ⟨⟨value, rest⟩, read⟩ := Option.isSome_iff_exists.mp reads
  induction passed with
  | nil =>
      rw [List.nil_append, upTo.eq_def, read]
      rfl
  | cons c later ih =>
      obtain ⟨may, others⟩ := List.forall_mem_cons.mp all
      obtain ⟨result, reached⟩ := Option.isSome_iff_exists.mp (ih others)
      rw [List.cons_append, upTo.eq_def]
      cases r (c :: (later ++ after)) with
      | some result => rfl
      | none =>
          dsimp only
          rw [if_pos may, reached]
          rfl

theorem upTo1_eq_some {allowed : CodePoint → Bool} {r : Reader α} {t passed rest : Text} {value : α}
    (h : upTo1 allowed r t = some ((passed, value), rest)) :
    ∃ after, t = passed ++ after ∧ passed ≠ [] ∧ (∀ c ∈ passed, allowed c = true) ∧
      r after = some (value, rest) := by
  obtain ⟨c, second, first, reached⟩ := bind_eq_some.mp h
  obtain ⟨⟨others, found⟩, behind, further, made⟩ := bind_eq_some.mp reached
  obtain ⟨same, rfl⟩ := Prod.mk.inj (Option.some.inj made)
  obtain ⟨rfl, rfl⟩ := Prod.mk.inj same
  obtain ⟨rfl, here⟩ := char_eq_some first
  obtain ⟨after, rfl, there, read⟩ := upTo_eq_some further
  exact ⟨after, rfl, List.cons_ne_nil c others, List.forall_mem_cons.mpr ⟨here, there⟩, read⟩

theorem upTo1_isSome {allowed : CodePoint → Bool} {r : Reader α} {passed after : Text}
    (some_ : passed ≠ []) (all : ∀ c ∈ passed, allowed c = true)
    (reads : (r after).isSome = true) : (upTo1 allowed r (passed ++ after)).isSome = true := by
  obtain ⟨c, others, rfl⟩ := List.exists_cons_of_ne_nil some_
  obtain ⟨here, later⟩ := List.forall_mem_cons.mp all
  obtain ⟨⟨⟨row, value⟩, left⟩, reached⟩ := Option.isSome_iff_exists.mp (upTo_isSome later reads)
  have begun : char allowed (c :: (others ++ after)) = some (c, others ++ after) := by
    rw [char_cons, if_pos here]
  refine Option.isSome_iff_exists.mpr ⟨((c :: row, value), left), ?_⟩
  exact bind_eq_some.mpr ⟨c, _, begun, bind_eq_some.mpr ⟨_, left, reached, rfl⟩⟩

/-! ## What readers take -/

/-- Whether a reader takes characters of one kind off the front, and leaves the rest. -/
def Takes (kind : CodePoint → Prop) (r : Reader α) : Prop :=
  ∀ t rest value, r t = some (value, rest) → ∃ w, t = w ++ rest ∧ ∀ c ∈ w, kind c

section Takes

variable {kind : CodePoint → Prop}

theorem Takes.bind {r : Reader α} {next : α → Reader β} (first : r.Takes kind)
    (later : ∀ value, (next value).Takes kind) : (r >>= next).Takes kind := by
  intro t rest value h
  obtain ⟨found, mid, read, behind⟩ := bind_eq_some.mp h
  obtain ⟨w, rfl, here⟩ := first _ _ _ read
  obtain ⟨further, rfl, there⟩ := later found _ _ _ behind
  exact ⟨w ++ further, (List.append_assoc w further rest).symm,
    List.forall_mem_append.mpr ⟨here, there⟩⟩

theorem takes_pure (value : α) : (pure value : Reader α).Takes kind := by
  intro t rest found h
  obtain rfl := (Prod.mk.inj (Option.some.inj h)).2
  exact ⟨[], rfl, nofun⟩

theorem takes_word {w : Text} (all : ∀ c ∈ w, kind c) : (word w).Takes kind :=
  fun _ _ _ h => ⟨w, word_eq_some h, all⟩

section Rows

variable {test : CodePoint → Bool} (covered : ∀ c, test c = true → kind c)
include covered

theorem takes_char : (char test).Takes kind := by
  intro t rest c h
  obtain ⟨split, passed⟩ := char_eq_some h
  exact ⟨[c], split, List.forall_mem_singleton.mpr (covered c passed)⟩

theorem takes_many1 : (many1 test).Takes kind :=
  fun _ _ w h => ⟨w, many1_eq_some h, fun c mem => covered c ((many1_all h).2 c mem)⟩

end Rows

theorem Takes.mono {other : CodePoint → Prop} {r : Reader α} (takes : r.Takes kind)
    (covered : ∀ c, kind c → other c) : r.Takes other := by
  intro t rest value h
  obtain ⟨w, split, all⟩ := takes _ _ _ h
  exact ⟨w, split, fun c mem => covered c (all c mem)⟩

theorem Takes.suffix {r : Reader α} (takes : r.Takes kind) {t rest : Text} {value : α}
    (h : r t = some (value, rest)) : rest <:+ t := by
  obtain ⟨w, split, -⟩ := takes _ _ _ h
  exact ⟨w, split.symm⟩

theorem takes_gap (covered : ∀ c, isBlank c = true → kind c) : gap.Takes kind :=
  (takes_many1 covered).bind fun _ => takes_pure ()

theorem Takes.or {first second : Reader α} (here : first.Takes kind) (there : second.Takes kind) :
    (first <|> second).Takes kind :=
  fun t rest value h => (or_eq_some h).elim (here t rest value) (there t rest value)

theorem Takes.optional {r : Reader α} (takes : r.Takes kind) : (optional r).Takes kind := by
  refine Takes.or (fun t rest value h => ?_) (takes_pure none)
  obtain ⟨found, read, -⟩ := map_eq_some h
  exact takes t rest found read

theorem Takes.map {r : Reader α} (takes : r.Takes kind) (f : α → β) : (f <$> r).Takes kind := by
  intro t rest value h
  obtain ⟨found, read, -⟩ := map_eq_some h
  exact takes t rest found read

theorem Takes.withText {r : Reader α} (takes : r.Takes kind) : (withText r).Takes kind := by
  intro t rest result h
  obtain ⟨read, -⟩ := withText_eq_some h
  exact takes t rest result.1 read

theorem takes_many (test : CodePoint → Bool) : (many test).Takes fun _ => True := by
  intro t rest w h
  obtain ⟨rfl, rfl⟩ := Prod.mk.inj (Option.some.inj h)
  exact ⟨t.takeWhile test, List.takeWhile_append_dropWhile.symm, fun _ _ => trivial⟩

theorem takes_blanks : blanks.Takes fun _ => True :=
  (takes_many isBlank).bind fun _ => takes_pure ()

theorem takes_enclosed (opening closing : CodePoint) :
    (enclosed opening closing).Takes fun _ => True :=
  (takes_char fun _ _ => trivial).bind fun _ => (takes_many _).bind fun inner =>
    (takes_char fun _ _ => trivial).bind fun _ => takes_pure inner

theorem takes_enclosed1 (opening closing : CodePoint) :
    (enclosed1 opening closing).Takes fun _ => True :=
  (takes_char fun _ _ => trivial).bind fun _ => (takes_many1 fun _ _ => trivial).bind fun inner =>
    (takes_char fun _ _ => trivial).bind fun _ => takes_pure inner

end Takes

/-- Whether a reader leaves an end of the text that it is given, and not all of it. -/
def TakesFront {α : Type} (r : Reader α) : Prop :=
  ∀ {t rest : Text} {value : α}, r t = some (value, rest) → ∃ w, w ≠ [] ∧ t = w ++ rest

end Reader

namespace Search

/-- What was found was read somewhere. -/
theorem exists_read {α : Type} {gate : Gate} {r : Reader α} {before : Option CodePoint} {t : Text}
    {start : Nat} {found : Found α} (mem : found ∈ located start (parts gate r before t)) :
    ∃ front rest, r front = some (found.value, rest) := by
  fun_induction parts gate r before t generalizing start
  case case1 before => cases mem
  case case2 before c rest value after read shorter text ih =>
    rcases List.mem_cons.mp mem with rfl | later
    · rw [dite_eq_ite] at read
      obtain ⟨-, here⟩ := Option.ite_none_right_eq_some.mp read
      exact ⟨c :: rest, after, here⟩
    · exact ih later
  case case3 before c rest value after read longer ih => exact ih mem
  case case4 before c rest failed ih => exact ih mem

/-- What was found was read at the front of an end of the text. -/
theorem exists_read_within {α : Type} {kind : CodePoint → Prop} {gate : Gate} {r : Reader α}
    (takes : r.Takes kind) {before : Option CodePoint} {t : Text} {start : Nat} {found : Found α}
    (mem : found ∈ located start (parts gate r before t)) :
    ∃ front rest, front <:+ t ∧ r front = some (found.value, rest) := by
  fun_induction parts gate r before t generalizing start
  case case1 before => cases mem
  case case2 before c rest value after read shorter text ih =>
    rw [dite_eq_ite] at read
    obtain ⟨-, here⟩ := Option.ite_none_right_eq_some.mp read
    rcases List.mem_cons.mp mem with rfl | later
    · exact ⟨c :: rest, after, List.suffix_refl _, here⟩
    · obtain ⟨front, left, within, there⟩ := ih later
      exact ⟨front, left, within.trans (takes.suffix here), there⟩
  case case3 before c rest value after read longer ih =>
    obtain ⟨front, left, within, there⟩ := ih mem
    exact ⟨front, left, within.trans (List.suffix_cons c rest), there⟩
  case case4 before c rest failed ih =>
    obtain ⟨front, left, within, there⟩ := ih mem
    exact ⟨front, left, within.trans (List.suffix_cons c rest), there⟩

theorem parts_anywhere {α : Type} (r : Reader α) (before : Option CodePoint) (c : CodePoint)
    (rest : Text) :
    parts anywhere r before (c :: rest) =
      match r (c :: rest) with
      | some (v, after) =>
        if after.length < (c :: rest).length then
          let text := (c :: rest).take ((c :: rest).length - after.length)
          .hit text v :: parts anywhere r text.getLast? after
        else .plain c :: parts anywhere r (some c) rest
      | none => .plain c :: parts anywhere r (some c) rest := by
  have isOpen : anywhere before = true := rfl
  rw [parts, if_pos isOpen]
  cases r (c :: rest) with
  | none => rfl
  | some result => exact dite_eq_ite

end Search

end DoubleEntry
