import DoubleEntry.Execution.Overlay
import DoubleEntry.Proofs.Faults
import DoubleEntry.Proofs.Text.Search

/-!
# Reading placeholders

A placeholder stands for the value of its variable, or for itself where the variable has none.
To fill in a text is to write what stands for its placeholders, which cannot be done where a
number in a value is too long. Where no variables are given, all placeholders stay, and a
reference means the account that it spells unless it is still a variable. The account is always
in full spelling.
-/

namespace DoubleEntry

namespace Placeholder

/-- Whether a text is the name of a variable. -/
structure IsName (name : Text) : Prop where
  nonempty : name ≠ []
  chars : ∀ c ∈ name, isWordChar c = true

theorem braced_eq_some {t name rest : Text} (h : braced t = some (name, rest)) :
    IsName name ∧ t = name.enclosed '{' '}' ++ rest := by
  obtain ⟨c, behind, opened, second⟩ := Reader.bind_eq_some.mp h
  obtain ⟨taken, left, row, third⟩ := Reader.bind_eq_some.mp second
  obtain ⟨d, after, closed, last⟩ := Reader.bind_eq_some.mp third
  obtain ⟨rfl, brace⟩ := Reader.char_eq_some opened
  obtain ⟨nonempty, chars⟩ := Reader.many1_all row
  obtain rfl := Reader.many1_eq_some row
  obtain ⟨rfl, ending⟩ := Reader.char_eq_some closed
  obtain ⟨rfl, rfl⟩ := Prod.mk.inj (Option.some.inj last)
  obtain rfl := of_decide_eq_true brace
  obtain rfl := of_decide_eq_true ending
  exact ⟨⟨nonempty, chars⟩, by simp [Text.enclosed]⟩

theorem dollar_eq_some {t name rest : Text} (h : dollar t = some (name, rest)) :
    IsName name ∧ t = .char '$' :: name ++ rest := by
  obtain ⟨c, behind, opened, row⟩ := Reader.bind_eq_some.mp h
  obtain ⟨rfl, sign⟩ := Reader.char_eq_some opened
  obtain ⟨nonempty, chars⟩ := Reader.many1_all row
  obtain rfl := Reader.many1_eq_some row
  obtain rfl := of_decide_eq_true sign
  exact ⟨⟨nonempty, chars⟩, rfl⟩

theorem takesFront_braced : braced.TakesFront := by
  intro t rest name read
  obtain ⟨-, spelled⟩ := braced_eq_some read
  exact ⟨_, List.cons_ne_nil _ _, spelled⟩

theorem takesFront_dollar : dollar.TakesFront := by
  intro t rest name read
  obtain ⟨-, spelled⟩ := dollar_eq_some read
  exact ⟨_, List.cons_ne_nil _ _, spelled⟩

/-! ## Replacing placeholders -/

/-- What stands for a placeholder, however long its numbers are. -/
def shown (bindings : Bindings) (placeholder name : Text) : Text :=
  match bindings.get? name with
  | some binding => binding.spelling
  | none => placeholder

/-- The numbers in what stands for a placeholder. -/
def numbers (bindings : Bindings) (name : Text) : List Int :=
  match bindings.get? name with
  | some binding => binding.numbers
  | none => []

/-- The numbers in what stands for the placeholders that a reader finds. -/
def inserted (bindings : Bindings) (r : Reader Text) (t : Text) : List Int :=
  (Search.hits r t).flatMap fun hit => numbers bindings hit.2

/-- A text with the placeholders in braces replaced. -/
def unbraced (bindings : Bindings) (t : Text) : Text := Search.splice braced (shown bindings) t

/-- A text with all placeholders replaced, however long their numbers are. -/
def filled (bindings : Bindings) (t : Text) : Text :=
  Search.splice dollar (shown bindings) (unbraced bindings t)

/-- The numbers that are put into a text. -/
def insertions (bindings : Bindings) (t : Text) : List Int :=
  inserted bindings braced t ++ inserted bindings dollar (unbraced bindings t)

variable (bindings : Bindings)

theorem standIn_eq (placeholder name : Text) :
    standIn bindings placeholder name =
      Decimal.writing (numbers bindings name) (shown bindings placeholder name) := by
  unfold standIn numbers shown
  cases bindings.get? name <;> rfl

/-- To replace the placeholders that a reader finds is to write what stands for them. -/
theorem replace_standIn (r : Reader Text) (t : Text) :
    Search.replace r (standIn bindings) t =
      Decimal.writing (inserted bindings r t) (Search.splice r (shown bindings) t) := by
  rw [Search.replace_eq (standIn_eq bindings), Decimal.writing, inserted, List.all_flatMap]

/-- To fill in a text is to write what stands for its placeholders. -/
theorem fill_eq (t : Text) :
    fill bindings t = Decimal.writing (insertions bindings t) (filled bindings t) := by
  rw [fill, replace_standIn]
  simp only [replace_standIn]
  exact Decimal.writing_bind
    (fun first => (inserted bindings dollar first, Search.splice dollar (shown bindings) first)) _

theorem fill_eq_ok {t result : Text} :
    fill bindings t = .ok result ↔
      (∀ n ∈ insertions bindings t, Decimal.fits n = true) ∧ result = filled bindings t := by
  rw [fill_eq, Decimal.writing_eq_ok]

theorem inserted_none {r : Reader Text} {c : CodePoint} {rest : Text}
    (failed : r (c :: rest) = none) : inserted bindings r (c :: rest) = inserted bindings r rest := by
  rw [inserted, Search.hits_none failed, inserted]

theorem inserted_some {r : Reader Text} {w after name : Text} (some_ : w ≠ [])
    (read : r (w ++ after) = some (name, after)) :
    inserted bindings r (w ++ after) = numbers bindings name ++ inserted bindings r after := by
  rw [inserted, Search.hits_some some_ read, List.flatMap_cons, inserted]

/-- Nothing is put in where the reader fails at every character. -/
theorem inserted_append {r : Reader Text} {front : Text}
    (fails : ∀ c ∈ front, ∀ rest, r (c :: rest) = none) (after : Text) :
    inserted bindings r (front ++ after) = inserted bindings r after := by
  induction front with
  | nil => rfl
  | cons c rest ih =>
      obtain ⟨here, later⟩ := List.forall_mem_cons.mp fails
      rw [List.cons_append, inserted_none bindings (here _), ih later]

/-! ## Filling in with variables -/

/-- Whether a text cannot be filled in although all variables can be bound: what stands for one
of its placeholders has a number that is too long to be written. -/
def Unfillable (vars : Variables) (t : Text) : Prop :=
  ∃ bindings, vars.bind = .ok bindings ∧ ∃ n ∈ insertions bindings t, Decimal.fits n = false

omit bindings in
theorem substitute_unfillable {vars : Variables} {t : Text} (unfillable : Unfillable vars t) :
    substitute vars t = .error .unwritable := by
  obtain ⟨bindings, bound, long⟩ := unfillable
  rw [substitute, bound]
  exact (fill_eq bindings t).trans (Decimal.writing_of_not_fits long _)

variable {bindings} in
theorem substitute_fillable {vars : Variables} {t : Text} (bound : vars.bind = .ok bindings)
    (fillable : ¬Unfillable vars t) : substitute vars t = .ok (filled bindings t) := by
  have fit := (Decimal.fits_or_not (insertions bindings t)).resolve_right fun long =>
    fillable ⟨bindings, bound, long⟩
  rw [substitute, bound]
  exact (fill_eq_ok bindings).mpr ⟨fit, rfl⟩

/-! ## Nothing to fill in -/

theorem filled_empty : filled bindings [] = [] := by
  rw [filled, unbraced, Search.splice_nil, Search.splice_nil]

theorem insertions_empty : insertions bindings [] = [] := by
  rw [insertions, unbraced, Search.splice_nil]
  simp only [inserted, Search.hits_nil, List.flatMap_nil, List.append_nil]

theorem fill_empty : fill bindings [] = .ok [] := by
  rw [fill_eq, filled_empty, insertions_empty]
  rfl

theorem numbers_nil (name : Text) : numbers [] name = [] := rfl

theorem inserted_nil (r : Reader Text) (t : Text) : inserted [] r t = [] :=
  List.flatMap_eq_nil_iff.mpr fun hit _ => numbers_nil hit.2

/-- Without variables all placeholders stay as they are. -/
theorem filled_nil (t : Text) : filled [] t = t := by
  have kept : shown [] = fun placeholder (_ : Text) => placeholder := rfl
  rw [filled, unbraced, kept, Search.splice_self takesFront_braced,
    Search.splice_self takesFront_dollar]

theorem fill_nil (t : Text) : fill [] t = .ok t := by
  rw [fill_eq, filled_nil, insertions, inserted_nil, inserted_nil]
  rfl

theorem substitute_nil (t : Text) : substitute [] t = .ok t := fill_nil t

end Placeholder

namespace Script

theorem resolve_isFull {vars : Variables} {reference account : Text}
    (h : resolve vars reference = .ok account) : Address.normalize account = account := by
  obtain ⟨spelled, -, later⟩ := bind_eq_ok.mp h
  split at later
  · cases later
  · obtain rfl := Except.ok.inj later
    exact Address.normalize_normalize spelled

theorem resolve_nil (reference : Text) :
    resolve [] reference =
      if reference.head? = some (.char '$') then .error (.unbound reference)
      else .ok (Address.normalize reference) := by
  rw [resolve, Placeholder.substitute_nil]
  by_cases h : reference.head? = some (.char '$')
  · rw [if_pos h]
    simp only [bind, Except.bind, h, if_true]
    rfl
  · rw [if_neg h]
    simp only [bind, Except.bind, h, if_false]
    rfl

/-- Whether a reference is still a variable. -/
def isVariable (reference : Text) : Prop := reference.head? = some (.char '$')

theorem resolve_variable {reference : Text} (h : isVariable reference) :
    resolve [] reference = .error (.unbound reference) :=
  (resolve_nil reference).trans (if_pos h)

theorem resolve_address {reference : Text} (h : ¬isVariable reference) :
    resolve [] reference = .ok (Address.normalize reference) :=
  (resolve_nil reference).trans (if_neg h)

end Script

end DoubleEntry
