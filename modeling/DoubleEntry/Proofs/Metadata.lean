import DoubleEntry.Metadata
import DoubleEntry.Proofs.Entries

/-!
# Texts noted under texts

A text is the same key as itself and nothing else. Texts that are noted one after the other
leave the last one under each key, and new keys in the order in which they came first.
-/

namespace DoubleEntry

namespace Data

theorem same_text (value : Data) (key : Text) :
    same value (.text key) = decide (value = .text key) := by
  cases value with
  | text other =>
      rw [same]
      simp
  | double number =>
      rw [same, sameNumber, fraction?]
      · simp [fraction?]
      all_goals simp
  | _ => simp [same, sameNumber, fraction?]

theorem text_same (key : Text) (value : Data) :
    same (.text key) value = decide (text key = value) := by
  cases value with
  | text other =>
      rw [same]
      simp
  | _ => simp [same, sameNumber, fraction?]

theorem sameKey_text (value : Data) (key : Text) :
    value.sameKey (.text key) = decide (value = .text key) := by
  rw [sameKey, same_text, Bool.or_self]

theorem text_sameKey (key : Text) (value : Data) :
    (text key).sameKey value = decide (text key = value) := by
  rw [sameKey, text_same, Bool.or_self]

end Data

namespace Metadata

section Members

variable {P : Data → Prop}

/-- Keys and values keep a property when another pair is noted that has it. -/
theorem forall_mem_put {metadata : Metadata} {key value : Data} (here : P key ∧ P value)
    (all : ∀ entry ∈ metadata, P entry.1 ∧ P entry.2) :
    ∀ entry ∈ put metadata key value, P entry.1 ∧ P entry.2 := by
  induction metadata with
  | nil => exact List.forall_mem_singleton.mpr here
  | cons entry rest ih =>
      obtain ⟨first, noted⟩ := entry
      obtain ⟨front, later⟩ := List.forall_mem_cons.mp all
      rw [put]
      split
      · exact List.forall_mem_cons.mpr ⟨⟨front.1, here.2⟩, later⟩
      · exact List.forall_mem_cons.mpr ⟨front, ih later⟩

theorem forall_mem_ofPairs {pairs : List (Data × Data)} (all : ∀ pair ∈ pairs, P pair.1 ∧ P pair.2) :
    ∀ entry ∈ ofPairs pairs, P entry.1 ∧ P entry.2 := by
  have each (metadata : Metadata) (noted : ∀ entry ∈ metadata, P entry.1 ∧ P entry.2) :
      ∀ entry ∈ pairs.foldl (fun metadata pair => put metadata pair.1 pair.2) metadata,
        P entry.1 ∧ P entry.2 := by
    induction pairs generalizing metadata with
    | nil => exact noted
    | cons pair rest ih =>
        obtain ⟨here, later⟩ := List.forall_mem_cons.mp all
        exact ih later _ (forall_mem_put here noted)
  exact each [] nofun

end Members

theorem get?_put_text (metadata : Metadata) (key : Text) (value other : Data) :
    get? (put metadata (.text key) value) other =
      if Data.text key = other then some value else get? metadata other := by
  induction metadata with
  | nil => simp [put, get?, Data.text_sameKey]
  | cons entry rest ih =>
      obtain ⟨first, noted⟩ := entry
      by_cases here : first = .text key
      · rw [here, put, Data.text_sameKey, decide_eq_true rfl, if_pos rfl, get?, get?,
          Data.text_sameKey]
        by_cases asked : Data.text key = other <;> simp [asked]
      · have unlike : first.sameKey (.text key) = false := by simp [Data.sameKey_text, here]
        rw [put, unlike, if_neg Bool.false_ne_true, get?, get?, ih]
        by_cases asked : Data.text key = other
        · rw [← asked, unlike]
          simp
        · simp [asked]

theorem keys_put_text (metadata : Metadata) (key : Text) (value : Data) :
    (put metadata (.text key) value).map Prod.fst =
      Entries.including (metadata.map Prod.fst) [.text key] := by
  rw [Entries.including_singleton]
  induction metadata with
  | nil => rfl
  | cons entry rest ih =>
      obtain ⟨first, noted⟩ := entry
      by_cases here : first = .text key
      · simp [put, Data.sameKey_text, here]
      · rw [put, Data.sameKey_text, decide_eq_false here, if_neg Bool.false_ne_true, List.map_cons, ih]
        dsimp only
        by_cases there : Data.text key ∈ rest.map Prod.fst
        · rw [List.map_cons, if_pos there, if_pos (List.mem_cons_of_mem _ there)]
        · rw [List.map_cons, if_neg there,
            if_neg (List.not_mem_cons_of_ne_of_not_mem (Ne.symm here) there), List.cons_append]

/-! ## Notes in a row -/

/-- Note texts under keys, one after the other. -/
def noteAll (metadata : Metadata) (notes : List (Text × Text)) : Metadata :=
  notes.foldl (fun metadata note => put metadata (.text note.1) (.text note.2)) metadata

/-- The last text of a row that is noted under a key. -/
def last? (notes : List (Text × Text)) (key : Data) : Option Data :=
  (notes.filter fun note => Data.text note.1 = key).getLast?.map fun note => .text note.2

theorem last?_cons (note : Text × Text) (rest : List (Text × Text)) (key : Data) :
    last? (note :: rest) key =
      (last? rest key).or (if Data.text note.1 = key then some (.text note.2) else none) := by
  by_cases here : Data.text note.1 = key
  · rw [last?, List.filter_cons_of_pos (by simpa using here), List.getLast?_cons, if_pos here, last?]
    cases (rest.filter fun note => Data.text note.1 = key).getLast? <;> rfl
  · rw [last?, List.filter_cons_of_neg (by simpa using here), if_neg here, Option.or_none]
    rfl

theorem get?_noteAll (metadata : Metadata) (notes : List (Text × Text)) (key : Data) :
    get? (noteAll metadata notes) key = (last? notes key).or (get? metadata key) := by
  induction notes generalizing metadata with
  | nil => rfl
  | cons note rest ih =>
      have later := ih (put metadata (.text note.1) (.text note.2))
      rw [get?_put_text] at later
      rw [last?_cons, Option.or_assoc]
      refine later.trans (congrArg _ ?_)
      split <;> rfl

theorem keys_noteAll (metadata : Metadata) (notes : List (Text × Text)) :
    (noteAll metadata notes).map Prod.fst =
      Entries.including (metadata.map Prod.fst) (notes.map fun note => .text note.1) := by
  induction notes generalizing metadata with
  | nil => exact (Entries.including_nil _).symm
  | cons note rest ih =>
      have later := ih (put metadata (.text note.1) (.text note.2))
      rw [keys_put_text, ← Entries.including_append] at later
      exact later

end Metadata

end DoubleEntry
