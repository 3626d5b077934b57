/-!
# Entries in order of first writing

A finite map that remembers the order in which its keys were first written. A
key that is written again keeps its place and takes the new value.
-/

namespace DoubleEntry

/-- The entries of a map in the order in which the keys were first written. -/
abbrev Entries (κ ν : Type) := List (κ × ν)

namespace Entries

variable {κ ν : Type} [DecidableEq κ]

/-- The value of a key, if it was written. -/
def get? : Entries κ ν → κ → Option ν
  | [], _ => none
  | (k, v) :: rest, key => if k = key then some v else get? rest key

/-- Write a value under a key. -/
def put : Entries κ ν → κ → ν → Entries κ ν
  | [], key, value => [(key, value)]
  | (k, v) :: rest, key, value =>
    if k = key then (k, value) :: rest else (k, v) :: put rest key value

/-- Write a list of pairs one after the other. -/
def putAll (entries : Entries κ ν) (pairs : List (κ × ν)) : Entries κ ν :=
  pairs.foldl (fun m p => put m p.1 p.2) entries

/-- The map that holds the last value of every key of a list of pairs. -/
def ofPairs (pairs : List (κ × ν)) : Entries κ ν := putAll [] pairs

/-- The keys in order. -/
def keys (entries : Entries κ ν) : List κ := entries.map Prod.fst

/-- Whether a key was written. -/
def hasKey (entries : Entries κ ν) (key : κ) : Bool := (get? entries key).isSome

@[simp] theorem get?_nil (key : κ) : get? ([] : Entries κ ν) key = none := rfl

theorem get?_put (entries : Entries κ ν) (key other : κ) (value : ν) :
    get? (put entries key value) other =
      if key = other then some value else get? entries other := by
  induction entries with
  | nil => simp [put, get?]
  | cons entry rest ih =>
    obtain ⟨k, v⟩ := entry
    by_cases hk : k = key
    · subst hk; simp only [put, get?, if_pos]; split <;> rfl
    · by_cases ho : k = other
      · subst ho; simp [put, get?, hk, Ne.symm hk]
      · simp [put, get?, hk, ho, ih]

@[simp] theorem get?_put_self (entries : Entries κ ν) (key : κ) (value : ν) :
    get? (put entries key value) key = some value := by
  simp [get?_put]

theorem keys_put (entries : Entries κ ν) (key : κ) (value : ν) :
    keys (put entries key value) =
      if key ∈ keys entries then keys entries else keys entries ++ [key] := by
  induction entries with
  | nil => simp [put, keys]
  | cons entry rest ih =>
    obtain ⟨k, v⟩ := entry
    simp only [keys] at ih ⊢
    by_cases hk : k = key
    · subst hk; simp [put]
    · simp only [put, if_neg hk, List.map_cons, ih, List.mem_cons]
      by_cases hm : key ∈ rest.map Prod.fst
      · simp [hm]
      · simp [hm, Ne.symm hk]

theorem get?_eq_none_iff (entries : Entries κ ν) (key : κ) :
    get? entries key = none ↔ key ∉ keys entries := by
  induction entries with
  | nil => simp [keys]
  | cons entry rest ih =>
    obtain ⟨k, v⟩ := entry
    simp only [keys] at ih ⊢
    by_cases hk : k = key
    · subst hk; simp [get?]
    · simp [get?, hk, ih, Ne.symm hk]

end Entries

end DoubleEntry
