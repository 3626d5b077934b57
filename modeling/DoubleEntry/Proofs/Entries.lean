import DoubleEntry.Entries
import Mathlib.Algebra.BigOperators.Group.List.Basic
import Mathlib.Algebra.Order.Ring.Int

/-!
# Laws of entries

How writes under several keys go together. A write under a key that is already there
keeps every key in its place, so that it can change places with a write under another
key; a write under a new key cannot, since it decides the order of keys.
-/

namespace DoubleEntry.Entries

variable {κ ν : Type} [DecidableEq κ]

theorem hasKey_iff (entries : Entries κ ν) (key : κ) :
    hasKey entries key = true ↔ ∃ value, get? entries key = some value := by
  simp [hasKey, Option.isSome_iff_exists]

theorem hasKey_iff_mem (entries : Entries κ ν) (key : κ) :
    hasKey entries key = true ↔ key ∈ keys entries := by
  have h := not_congr (get?_eq_none_iff entries key)
  rw [not_not] at h
  rw [← h, hasKey, Option.isSome_iff_ne_none]

theorem hasKey_put (entries : Entries κ ν) (key other : κ) (value : ν) :
    hasKey (put entries key value) other = true ↔
      key = other ∨ hasKey entries other = true := by
  rw [hasKey, get?_put]
  by_cases h : key = other <;> simp [h, hasKey]

theorem hasKey_cons (key other : κ) (value : ν) (rest : Entries κ ν) :
    hasKey ((key, value) :: rest) other = true ↔ key = other ∨ hasKey rest other = true := by
  by_cases h : key = other <;> simp [hasKey, get?, h]

theorem put_put_self (entries : Entries κ ν) (key : κ) (first second : ν) :
    put (put entries key first) key second = put entries key second := by
  induction entries with
  | nil => simp [put]
  | cons entry rest ih =>
      obtain ⟨k, v⟩ := entry
      by_cases h : k = key
      · simp [put, h]
      · simp [put, h, ih]

/-- A write under a key that is there can change places with a write under another
key. -/
theorem put_comm {entries : Entries κ ν} {key other : κ} (present : hasKey entries key = true)
    (hne : key ≠ other) (value otherValue : ν) :
    put (put entries other otherValue) key value =
      put (put entries key value) other otherValue := by
  induction entries with
  | nil => simp [hasKey] at present
  | cons entry rest ih =>
      obtain ⟨k, v⟩ := entry
      by_cases hk : k = key
      · have hko : k ≠ other := hk ▸ hne
        simp [put, hk, hne]
      · have later : hasKey rest key = true := by
          simpa [hasKey, get?, hk] using present
        by_cases ho : k = other
        · simp [put, ho, Ne.symm hne]
        · simp [put, hk, ho, ih later]

/-- Keys and, behind them, those of further names that are not among them, each once, in the
order in which they are first mentioned. -/
def including (known names : List κ) : List κ := known ++ (names.removeAll known).eraseDups

@[simp] theorem including_nil (known : List κ) : including known [] = known := by
  simp [including, List.removeAll]

theorem including_of_nil (names : List κ) : including [] names = names.eraseDups := by
  simp [including, List.removeAll]

theorem including_append (known names more : List κ) :
    including known (names ++ more) = including (including known names) more := by
  have further : (more.removeAll known).removeAll (names.removeAll known) =
      more.removeAll (known ++ (names.removeAll known).eraseDups) := by
    rw [List.removeAll, List.removeAll, List.removeAll, List.filter_filter]
    refine List.filter_congr fun key _ => ?_
    simp [Bool.and_comm]
  calc including known (names ++ more)
      = known ++ (names.removeAll known ++ more.removeAll known).eraseDups := by
        rw [including, List.removeAll, List.filter_append]
        rfl
    _ = including (including known names) more := by
        rw [List.eraseDups_append, further, ← List.append_assoc]
        rfl

theorem including_singleton (known : List κ) (key : κ) :
    including known [key] = if key ∈ known then known else known ++ [key] := by
  by_cases there : key ∈ known
  · simp [including, List.removeAll, there]
  · simp [including, List.removeAll, there, List.eraseDups_cons]

theorem nodup_eraseDups {α : Type} [BEq α] [LawfulBEq α] : ∀ names : List α, names.eraseDups.Nodup
  | [] => by simp
  | name :: rest => by
      rw [List.eraseDups_cons, List.nodup_cons]
      refine ⟨fun again => ?_, nodup_eraseDups _⟩
      have other := (List.mem_filter.mp (List.mem_eraseDups.mp again)).2
      simp at other
  termination_by names => names.length
  decreasing_by exact Nat.lt_succ_of_le (List.length_filter_le _ _)

theorem eraseDups_of_nodup {α : Type} [BEq α] [LawfulBEq α] {names : List α}
    (distinct : names.Nodup) : names.eraseDups = names := by
  induction names with
  | nil => simp
  | cons name rest ih =>
      obtain ⟨fresh, later⟩ := List.nodup_cons.mp distinct
      have others : (rest.filter fun other => !other == name) = rest := by
        refine List.filter_eq_self.mpr fun other mem => ?_
        simpa using fun same : other = name => fresh (same ▸ mem)
      rw [List.eraseDups_cons, others, ih later]

/-- Where no key is there twice, a filter for the key of one item finds this item only. -/
theorem filter_of_nodup {α : Type} {key : α → κ} {items : List α}
    (distinct : (items.map key).Nodup) {item : α} (mem : item ∈ items) :
    (items.filter fun other => key other = key item) = [item] := by
  induction items with
  | nil => cases mem
  | cons first rest ih =>
      obtain ⟨fresh, later⟩ := List.nodup_cons.mp distinct
      rcases List.mem_cons.mp mem with rfl | behind
      · rw [List.filter_cons_of_pos (by simp), List.filter_eq_nil_iff.mpr]
        intro other there same
        exact fresh (List.mem_map.mpr ⟨other, there, of_decide_eq_true same⟩)
      · rw [List.filter_cons_of_neg, ih later behind]
        intro same
        exact fresh (List.mem_map.mpr ⟨item, behind, (of_decide_eq_true same).symm⟩)

theorem nodup_keys_put {entries : Entries κ ν} (distinct : (keys entries).Nodup) (key : κ)
    (value : ν) : (keys (put entries key value)).Nodup := by
  rw [keys_put]
  split
  · exact distinct
  · next absent => exact List.nodup_append.mpr ⟨distinct, by simp, by
      intro a ha b hb heq
      exact absent (by rw [← List.mem_singleton.mp hb, ← heq]; exact ha)⟩

theorem mem_put {entries : Entries κ ν} {key : κ} {value : ν} {entry : κ × ν}
    (h : entry ∈ put entries key value) : entry = (key, value) ∨ entry ∈ entries := by
  induction entries with
  | nil => exact Or.inl (List.mem_singleton.mp h)
  | cons head rest ih =>
      obtain ⟨k, v⟩ := head
      by_cases hk : k = key
      · rw [put, if_pos hk, hk] at h
        rcases List.mem_cons.mp h with here | later
        · exact Or.inl here
        · exact Or.inr (List.mem_cons_of_mem _ later)
      · rw [put, if_neg hk] at h
        rcases List.mem_cons.mp h with here | later
        · exact Or.inr (here ▸ List.mem_cons_self)
        · exact (ih later).imp_right (List.mem_cons_of_mem _)

theorem mem_of_get? {entries : Entries κ ν} {key : κ} {value : ν}
    (h : get? entries key = some value) : (key, value) ∈ entries := by
  induction entries with
  | nil => simp at h
  | cons entry rest ih =>
      obtain ⟨k, v⟩ := entry
      by_cases hk : k = key
      · simp only [get?, hk, if_true, Option.some.injEq] at h
        simp [hk, h]
      · simp only [get?, if_neg hk] at h
        exact List.mem_cons_of_mem _ (ih h)

theorem get?_of_mem {entries : Entries κ ν} (distinct : (keys entries).Nodup) {key : κ}
    {value : ν} (h : (key, value) ∈ entries) : get? entries key = some value := by
  induction entries with
  | nil => simp at h
  | cons entry rest ih =>
      obtain ⟨k, v⟩ := entry
      simp only [keys, List.map_cons, List.nodup_cons] at distinct
      rcases List.mem_cons.mp h with here | later
      · obtain ⟨rfl, rfl⟩ := Prod.mk.inj here
        simp [get?]
      · have hk : k ≠ key := by
          rintro rfl
          exact distinct.1 (List.mem_map.mpr ⟨(k, value), later, rfl⟩)
        simpa [get?, hk] using ih distinct.2 later

/-- A scan for a key finds what a look-up of the key finds. -/
theorem filter_key {entries : Entries κ ν} (distinct : (keys entries).Nodup) (key : κ) :
    (entries.filter fun entry => entry.1 = key) =
      (get? entries key).toList.map fun value => (key, value) := by
  cases found : get? entries key with
  | none =>
      refine List.filter_eq_nil_iff.mpr fun entry mem same => ?_
      obtain rfl := of_decide_eq_true same
      exact (get?_eq_none_iff entries entry.1).mp found (List.mem_map_of_mem mem)
  | some value => exact filter_of_nodup distinct (mem_of_get? found)

/-- Writing a value changes a sum over all values by the difference to what was there
before. -/
theorem sum_put (weight : ν → Int) (entries : Entries κ ν) (key : κ) (value : ν) :
    ((put entries key value).map fun entry => weight entry.2).sum =
      (entries.map fun entry => weight entry.2).sum + weight value -
        ((get? entries key).map weight).getD 0 := by
  induction entries with
  | nil => simp [put]
  | cons entry rest ih =>
      obtain ⟨k, v⟩ := entry
      by_cases hk : k = key
      · simp only [put, get?, hk, if_true, List.map_cons, List.sum_cons, Option.map_some,
          Option.getD_some]
        omega
      · simp only [put, get?, if_neg hk, List.map_cons, List.sum_cons, ih]
        omega

/-! ## Writing pairs one after the other -/

theorem mem_putAll {entries : Entries κ ν} {pairs : List (κ × ν)} {entry : κ × ν}
    (h : entry ∈ putAll entries pairs) : entry ∈ entries ∨ entry ∈ pairs := by
  induction pairs generalizing entries with
  | nil => exact Or.inl h
  | cons pair rest ih =>
      rcases ih h with first | later
      · rcases mem_put first with rfl | old
        · exact Or.inr List.mem_cons_self
        · exact Or.inl old
      · exact Or.inr (List.mem_cons_of_mem _ later)

theorem hasKey_putAll (entries : Entries κ ν) (pairs : List (κ × ν)) (key : κ) :
    hasKey (putAll entries pairs) key = true ↔
      hasKey entries key = true ∨ ∃ pair ∈ pairs, pair.1 = key := by
  induction pairs generalizing entries with
  | nil => simp [putAll]
  | cons pair rest ih =>
      rw [List.exists_mem_cons_iff, ← or_assoc]
      refine (ih _).trans (or_congr_left ?_)
      rw [hasKey_put, or_comm]

/-- Where all pairs have one value, this is the value of just the keys among them. -/
theorem mem_ofPairs_const (keys : List κ) {key : κ} {value : ν} :
    (key, value) ∈ ofPairs (keys.map fun k => (k, value)) ↔ key ∈ keys := by
  constructor
  · intro h
    rcases mem_putAll h with old | given
    · cases old
    · obtain ⟨k, mem, same⟩ := List.mem_map.mp given
      obtain rfl : k = key := congrArg Prod.fst same
      exact mem
  · intro h
    have known : hasKey (ofPairs (keys.map fun k => (k, value))) key = true := by
      rw [ofPairs, hasKey_putAll]
      exact Or.inr ⟨(key, value), List.mem_map_of_mem h, rfl⟩
    obtain ⟨other, found⟩ := (hasKey_iff _ _).mp known
    have mem := mem_of_get? found
    rcases mem_putAll mem with old | given
    · cases old
    · obtain ⟨k, -, same⟩ := List.mem_map.mp given
      obtain rfl : value = other := congrArg Prod.snd same
      exact mem

end DoubleEntry.Entries
