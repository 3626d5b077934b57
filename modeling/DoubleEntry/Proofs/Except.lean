import Mathlib.Data.List.Forall2

/-!
# Computations that can fail

What the outcome of a row of computations says about each of them.
-/

namespace DoubleEntry

variable {ε α β : Type}

/-- A value is reached through values only. -/
theorem bind_eq_ok {first : Except ε α} {next : α → Except ε β} {result : β} :
    first >>= next = .ok result ↔ ∃ value, first = .ok value ∧ next value = .ok result := by
  constructor
  · intro h
    cases first with
    | error fault => cases h
    | ok value => exact ⟨value, rfl, h⟩
  · rintro ⟨value, rfl, later⟩
    exact later

theorem map_eq_ok {outcome : Except ε α} {f : α → β} {result : β} :
    f <$> outcome = .ok result ↔ ∃ value, outcome = .ok value ∧ f value = result := by
  cases outcome with
  | error fault => exact ⟨nofun, nofun⟩
  | ok value =>
      constructor
      · intro h
        exact ⟨value, rfl, Except.ok.inj h⟩
      · rintro ⟨found, same, rfl⟩
        rw [Except.ok.inj same]
        rfl

/-- A row is reached through its first value and the row of the others. -/
theorem cons_eq_ok {first : Except ε α} {later : Except ε (List α)} {results : List α} :
    (do
      let value ← first
      let others ← later
      return value :: others) = .ok results ↔
      ∃ value others, first = .ok value ∧ later = .ok others ∧ results = value :: others := by
  constructor
  · intro h
    obtain ⟨value, made, behind⟩ := bind_eq_ok.mp h
    obtain ⟨others, rest, joined⟩ := bind_eq_ok.mp behind
    exact ⟨value, others, made, rest, (Except.ok.inj joined).symm⟩
  · rintro ⟨value, others, rfl, rfl, rfl⟩
    rfl

theorem toOption_eq_some {outcome : Except ε α} {value : α} :
    outcome.toOption = some value ↔ outcome = .ok value := by
  cases outcome with
  | error fault => exact ⟨nofun, nofun⟩
  | ok other => rw [Except.toOption, Option.some_inj, Except.ok.injEq]

/-- A row of steps fails at its first step that fails. -/
theorem foldlM_eq_error {step : β → α → Except ε β} {start : β} {items : List α} {fault : ε}
    (h : items.foldlM step start = .error fault) :
    ∃ done item rest mid, items = done ++ item :: rest ∧ done.foldlM step start = .ok mid ∧
      step mid item = .error fault := by
  induction items generalizing start with
  | nil => cases h
  | cons item rest ih =>
      rw [List.foldlM_cons] at h
      cases hs : step start item with
      | error cause =>
          rw [hs] at h
          cases h
          exact ⟨[], item, rest, start, rfl, rfl, hs⟩
      | ok next =>
          rw [hs] at h
          obtain ⟨done, last, later, mid, rfl, made, failed⟩ := ih h
          refine ⟨item :: done, last, later, mid, rfl, ?_, failed⟩
          rw [List.foldlM_cons, hs]
          exact made

/-- A row of computations succeeds just when each of them does. -/
theorem mapM_eq_ok {f : α → Except ε β} {items : List α} {results : List β} :
    items.mapM f = .ok results ↔ List.Forall₂ (fun item result => f item = .ok result) items results := by
  induction items generalizing results with
  | nil =>
      rw [List.mapM_nil, List.forall₂_nil_left_iff]
      constructor
      · intro h
        exact (Except.ok.inj h).symm
      · rintro rfl
        rfl
  | cons item rest ih =>
      rw [List.mapM_cons, bind_eq_ok]
      constructor
      · rintro ⟨first, made, later⟩
        obtain ⟨others, rests, last⟩ := bind_eq_ok.mp later
        obtain rfl := Except.ok.inj last
        exact List.Forall₂.cons made (ih.mp rests)
      · intro h
        cases h with
        | cons made rests => exact ⟨_, made, bind_eq_ok.mpr ⟨_, ih.mpr rests, rfl⟩⟩

theorem mem_of_mapM_eq_ok {f : α → Except ε β} {items : List α} {results : List β}
    (h : items.mapM f = .ok results) (result : β) :
    result ∈ results ↔ ∃ item ∈ items, f item = .ok result := by
  induction mapM_eq_ok.mp h with
  | nil => simp
  | @cons item first rest others made rests ih =>
      rw [List.mem_cons, List.exists_mem_cons_iff, made, ih (mapM_eq_ok.mpr rests),
        Except.ok.injEq, eq_comm]

theorem exists_mapM_ok_iff {f : α → Except ε β} {items : List α} :
    (∃ results, items.mapM f = .ok results) ↔ ∀ item ∈ items, ∃ result, f item = .ok result := by
  constructor
  · rintro ⟨results, made⟩
    induction mapM_eq_ok.mp made with
    | nil => simp
    | cons first rests ih =>
        exact List.forall_mem_cons.mpr ⟨⟨_, first⟩, ih (mapM_eq_ok.mpr rests)⟩
  · intro each
    induction items with
    | nil => exact ⟨[], rfl⟩
    | cons item rest ih =>
        obtain ⟨⟨first, made⟩, others⟩ := List.forall_mem_cons.mp each
        obtain ⟨results, rests⟩ := ih others
        exact ⟨first :: results, mapM_eq_ok.mpr (List.Forall₂.cons made (mapM_eq_ok.mp rests))⟩

/-- Where only one fault can keep a value back, a row of computations comes down to whether all
values are there. -/
theorem mapM_eq_ite {f : α → Except ε β} {g : α → β} {good : α → Bool} {fault : ε}
    (each : ∀ item, f item = if good item then .ok (g item) else .error fault) (items : List α) :
    items.mapM f = if items.all good then .ok (items.map g) else .error fault := by
  induction items with
  | nil => rfl
  | cons item rest ih =>
      rw [List.mapM_cons, each, ih, List.all_cons]
      cases good item with
      | false => rfl
      | true => cases rest.all good <;> rfl

/-- Where every item can be judged, those are kept that the judgement is in favour of. -/
theorem filterM_eq_filter {p : α → Except ε Bool} {q : α → Bool} {items : List α}
    (judged : ∀ item ∈ items, p item = .ok (q item)) : items.filterM p = .ok (items.filter q) := by
  have aux (kept : List α) :
      List.filterAuxM p items kept = .ok ((items.filter q).reverse ++ kept) := by
    induction items generalizing kept with
    | nil => rfl
    | cons item rest ih =>
        obtain ⟨here, later⟩ := List.forall_mem_cons.mp judged
        have step : List.filterAuxM p (item :: rest) kept =
            List.filterAuxM p rest (if q item then item :: kept else kept) := by
          rw [List.filterAuxM, here]
          cases q item <;> rfl
        rw [step, ih later]
        by_cases favoured : q item = true
        · simp [favoured]
        · simp [favoured]
  rw [List.filterM, aux, List.append_nil]
  exact congrArg Except.ok (List.reverse_reverse _)

end DoubleEntry
