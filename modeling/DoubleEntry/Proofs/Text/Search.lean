import DoubleEntry.Proofs.Except
import DoubleEntry.Proofs.Text.Reader

/-!
# Searching

A search passes over the places at which its reader fails, and goes on behind the text
that it reads.
-/

namespace DoubleEntry

/-- What a part becomes where every value has a text that replaces it. -/
def Part.rewritten {α : Type} (put : Text → α → Text) : Part α → Text
  | .plain c => [c]
  | .hit text value => put text value

namespace Search

variable {α : Type} {r : Reader α}

/-- The texts and values of what was found. -/
def hitsOf (found : List (Part α)) : List (Text × α) :=
  found.filterMap fun
    | .plain _ => none
    | .hit text value => some (text, value)

/-- What a reader finds in a text, whatever comes before. -/
def hits (r : Reader α) (t : Text) : List (Text × α) := hitsOf (parts anywhere r none t)

theorem map_located (start : Nat) (found : List (Part α)) :
    (located start found).map (fun found => (found.text, found.value)) = hitsOf found := by
  induction found generalizing start with
  | nil => rfl
  | cons part rest ih =>
      cases part with
      | plain c => exact ih (start + 1)
      | hit text value => exact congrArg ((text, value) :: ·) (ih (start + text.length))

theorem map_all (r : Reader α) (t : Text) :
    (all anywhere r t).map (fun found => (found.text, found.value)) = hits r t :=
  map_located 0 _

/-- What comes before counts only in so far as it opens the first place. -/
theorem parts_congr {gate : Gate} {before other : Option CodePoint} (same : gate before = gate other)
    (t : Text) : parts gate r before t = parts gate r other t := by
  cases t with
  | nil => rw [parts, parts]
  | cons c rest => rw [parts, parts, same]

/-- What comes before does not count where every place is open. -/
theorem parts_before (before other : Option CodePoint) (t : Text) :
    parts anywhere r before t = parts anywhere r other t :=
  parts_congr (show anywhere before = anywhere other from rfl) t

/-- A character at which nothing is read is a part on its own. -/
theorem parts_none {c : CodePoint} {rest : Text} (failed : r (c :: rest) = none) :
    parts anywhere r none (c :: rest) = .plain c :: parts anywhere r none rest := by
  rw [parts_anywhere, failed]
  dsimp only
  rw [parts_before (some c) none]

theorem hits_nil (r : Reader α) : hits r [] = [] := by
  rw [hits, parts]
  rfl

theorem hits_none {c : CodePoint} {rest : Text} (failed : r (c :: rest) = none) :
    hits r (c :: rest) = hits r rest := by
  rw [hits, parts_none failed]
  rfl

/-- What is read at an open place is a part, with what follows behind it. -/
theorem parts_some {gate : Gate} {before : Option CodePoint} (isOpen : gate before = true)
    {w after : Text} {value : α} (some_ : w ≠ []) (read : r (w ++ after) = some (value, after)) :
    parts gate r before (w ++ after) = .hit w value :: parts gate r w.getLast? after := by
  obtain ⟨c, rest, rfl⟩ := List.exists_cons_of_ne_nil some_
  have shorter : after.length < (c :: (rest ++ after)).length := by
    rw [List.length_cons, List.length_append]
    omega
  have taken : (c :: (rest ++ after)).take ((c :: (rest ++ after)).length - after.length) =
      c :: rest := by
    rw [← List.cons_append, List.length_append, Nat.add_sub_cancel, List.take_left]
  rw [List.cons_append] at read ⊢
  rw [parts, if_pos isOpen, read]
  dsimp only
  rw [dif_pos shorter, taken]

theorem hits_some {w after : Text} {value : α} (some_ : w ≠ [])
    (read : r (w ++ after) = some (value, after)) :
    hits r (w ++ after) = (w, value) :: hits r after := by
  rw [hits, parts_some rfl some_ read, parts_before _ none]
  rfl

/-- A search passes over places at which its reader fails. -/
theorem hits_append {before after : Text}
    (fails : ∀ done rest, before = done ++ rest → rest ≠ [] → r (rest ++ after) = none) :
    hits r (before ++ after) = hits r after := by
  induction before with
  | nil => rfl
  | cons c rest ih =>
      have here : r (c :: (rest ++ after)) = none := fails [] _ rfl (List.cons_ne_nil c rest)
      rw [List.cons_append, hits_none here]
      refine ih fun done later split => fails (c :: done) later ?_
      rw [split, List.cons_append]

/-- What is read behind the places passed over is found first. -/
theorem first?_of_hits_eq {t w after : Text} {value : α} (passed : hits r t = hits r (w ++ after))
    (some_ : w ≠ []) (read : r (w ++ after) = some (value, after)) :
    ∃ found, first? anywhere r t = some found ∧ found.value = value := by
  rw [hits_some some_ read, ← map_all] at passed
  obtain ⟨found, rest, listed, here, -⟩ := List.map_eq_cons_iff.mp passed
  refine ⟨found, ?_, (Prod.mk.inj here).2⟩
  rw [first?, listed, List.head?_cons]

/-- What a reader reads at the very beginning is found first. -/
theorem first?_append (gate : Gate) (isOpen : gate none = true) {w after : Text} {value : α}
    (some_ : w ≠ []) (read : r (w ++ after) = some (value, after)) :
    first? gate r (w ++ after) = some ⟨0, w, value⟩ := by
  rw [first?, all, parts_some isOpen some_ read, located, List.head?_cons]

/-! ## Replacing -/

section Replace

/-- A text with other texts in the place of found values. -/
def splice (r : Reader α) (put : Text → α → Text) (t : Text) : Text :=
  (parts anywhere r none t).flatMap (Part.rewritten put)

variable {put : Text → α → Text}

theorem splice_nil (r : Reader α) (put : Text → α → Text) : splice r put [] = [] := by
  rw [splice, parts]
  rfl

theorem splice_none {c : CodePoint} {rest : Text} (failed : r (c :: rest) = none) :
    splice r put (c :: rest) = c :: splice r put rest := by
  rw [splice, parts_none failed]
  rfl

theorem splice_some {w after : Text} {value : α} (some_ : w ≠ [])
    (read : r (w ++ after) = some (value, after)) :
    splice r put (w ++ after) = put w value ++ splice r put after := by
  rw [splice, parts_some rfl some_ read, parts_before _ none]
  rfl

/-- What is passed over is kept. -/
theorem splice_append {front : Text} (fails : ∀ c ∈ front, ∀ rest, r (c :: rest) = none)
    (after : Text) : splice r put (front ++ after) = front ++ splice r put after := by
  induction front with
  | nil => rfl
  | cons c rest ih =>
      obtain ⟨here, later⟩ := List.forall_mem_cons.mp fails
      rw [List.cons_append, splice_none (here _), ih later, List.cons_append]

/-- The parts of a text make up the text. -/
theorem flatMap_source (gate : Gate) (r : Reader α) (before : Option CodePoint) (t : Text)
    (takes : r.TakesFront) : (parts gate r before t).flatMap Part.source = t := by
  fun_induction parts gate r before t
  case case1 before => rfl
  case case2 before c rest value after read shorter text ih =>
    rw [dite_eq_ite] at read
    obtain ⟨w, -, split⟩ := takes (Option.ite_none_right_eq_some.mp read).2
    have taken : text = w := by
      rw [show text = (c :: rest).take ((c :: rest).length - after.length) from rfl, split,
        List.length_append, Nat.add_sub_cancel, List.take_left]
    rw [List.flatMap_cons, ih, Part.source, taken, split]
  case case3 before c rest value after read longer ih =>
    rw [List.flatMap_cons, ih]
    rfl
  case case4 before c rest failed ih =>
    rw [List.flatMap_cons, ih]
    rfl

/-- To put the text of what was found in its own place changes nothing. -/
theorem splice_self (takes : r.TakesFront) (t : Text) : splice r (fun text _ => text) t = t := by
  have alike : Part.rewritten (fun text (_ : α) => text) = Part.source :=
    funext fun part => by cases part <;> rfl
  rw [splice, alike, flatMap_source anywhere r none t takes]

/-- To replace is to put texts in place, unless one of them is kept back by a fault. -/
theorem replace_eq {ε : Type} {fault : ε} {puts : Text → α → Except ε Text} {good : α → Bool}
    (each : ∀ text value, puts text value =
      if good value then .ok (put text value) else .error fault) (t : Text) :
    replace r puts t =
      if (hits r t).all fun hit => good hit.2 then .ok (splice r put t) else .error fault := by
  have parted (part : Part α) : part.rewrite puts =
      if (hitsOf [part]).all fun hit => good hit.2 then .ok (part.rewritten put)
      else .error fault := by
    cases part with
    | plain c => rfl
    | hit text value => simp [Part.rewrite, Part.rewritten, hitsOf, each]
  have all (found : List (Part α)) : (found.all fun part => (hitsOf [part]).all fun hit => good hit.2) =
      (hitsOf found).all fun hit => good hit.2 := by
    induction found with
    | nil => rfl
    | cons part rest ih =>
        have found : hitsOf (part :: rest) = hitsOf [part] ++ hitsOf rest :=
          List.filterMap_append (l := [part])
        rw [List.all_cons, ih, found, List.all_append]
  rw [replace, hits, splice, mapM_eq_ite parted, all]
  split <;> rfl

end Replace

/-! ## Rows -/

/-- Texts that a reader reads one after the other, with nothing but blanks between. -/
inductive Row (r : Reader α) : List (Text × α) → Text → Prop
  | done {gap : Text} (blank : ∀ c ∈ gap, isBlank c = true) : Row r [] gap
  | read {gap w rest : Text} {value : α} {others : List (Text × α)}
      (blank : ∀ c ∈ gap, isBlank c = true) (some_ : w ≠ [])
      (read : r (w ++ rest) = some (value, rest)) (later : Row r others rest) :
      Row r ((w, value) :: others) (gap ++ w ++ rest)

theorem hits_row (fails : ∀ c rest, isBlank c = true → r (c :: rest) = none)
    {found : List (Text × α)} {t : Text} (row : Row r found t) : hits r t = found := by
  have pass {gap : Text} (blank : ∀ c ∈ gap, isBlank c = true) (after : Text) :
      hits r (gap ++ after) = hits r after := by
    refine hits_append fun done rest split some_ => ?_
    obtain ⟨c, later, rfl⟩ := List.exists_cons_of_ne_nil some_
    refine fails c _ (blank c ?_)
    rw [split]
    exact List.mem_append_right _ List.mem_cons_self
  induction row with
  | @done gap blank =>
      have passed := pass blank []
      rwa [List.append_nil, hits_nil] at passed
  | read blank some_ read later ih => rw [List.append_assoc, pass blank, hits_some some_ read, ih]

end Search

end DoubleEntry
