import DoubleEntry.Proofs.Script.Placeholder
import DoubleEntry.Proofs.Text.Reading
import DoubleEntry.Proofs.Text.Search

/-!
# Simultaneous substitution

Placeholders in braces are replaced first, and those with a dollar sign then, in what the
first replacement left. This is the same as to replace all of them at once, unless a value
that takes the place of a placeholder in braces brings a dollar sign with it or comes to
stand behind one. Nothing is replaced at all where a number is too long to be written.
-/

namespace DoubleEntry

namespace Placeholder

/-- A text with the placeholders of bound variables replaced all at once. -/
def simultaneous (bindings : Bindings) (t : Text) : Text :=
  Search.splice (braced <|> dollar) (shown bindings) t

/-- Whether a bound placeholder of a text stands for a number that is too long to be
written. -/
def Overlong (bindings : Bindings) (t : Text) : Prop :=
  ∃ n ∈ inserted bindings (braced <|> dollar) t, Decimal.fits n = false

/-- Whether a text ends in a dollar sign with word characters behind, or none. -/
def IsDangling (t : Text) : Prop :=
  ∃ front row, t = front ++ .char '$' :: row ∧ ∀ c ∈ row, isWordChar c = true

/-- Whether the value of a variable takes the place of a placeholder in braces that can
become part of another placeholder: it holds a dollar sign, or what stands before it ends
in one. -/
def Entangled (bindings : Bindings) (t : Text) : Prop :=
  ∃ before name after binding, t = before ++ (name.enclosed '{' '}' ++ after) ∧ IsName name ∧
    bindings.get? name = some binding ∧
    ((.char '$' : CodePoint) ∈ binding.spelling ∨ IsDangling before)

variable {bindings : Bindings}

theorem Entangled.append {t : Text} (h : Entangled bindings t) (front : Text) :
    Entangled bindings (front ++ t) := by
  obtain ⟨before, name, after, binding, rfl, named, bound, tangled⟩ := h
  refine ⟨front ++ before, name, after, binding, (List.append_assoc _ _ _).symm, named, bound,
    tangled.imp_right ?_⟩
  rintro ⟨first, row, rfl, word⟩
  exact ⟨front ++ first, row, (List.append_assoc _ _ _).symm, word⟩

/-! ## Reading placeholders -/

theorem braced_read {name : Text} (named : IsName name) (after : Text) :
    braced (name.enclosed '{' '}' ++ after) = some (name, after) := by
  have spelled : name.enclosed '{' '}' ++ after = .char '{' :: (name ++ .char '}' :: after) := by
    simp [Text.enclosed]
  have row : Reader.many1 isWordChar (name ++ .char '}' :: after) = some (name, .char '}' :: after) :=
    Reader.many1_append named.chars (Reader.ends_cons (by decide +kernel) after) named.nonempty
  rw [spelled, braced, Reader.bind_some (Reader.char_some (by decide) _), Reader.bind_some row,
    Reader.bind_some (Reader.char_some (by decide) _)]
  rfl

theorem braced_none {c : CodePoint} (other : c ≠ .char '{') (rest : Text) :
    braced (c :: rest) = none := by
  refine Reader.bind_none ?_ _
  rw [Reader.char_cons, if_neg (by simpa using other)]

theorem dollar_read {name after : Text} (named : IsName name) (ends : Reader.Ends isWordChar after) :
    dollar (.char '$' :: name ++ after) = some (name, after) := by
  rw [List.cons_append, dollar, Reader.bind_some (Reader.char_some (by decide) _),
    Reader.many1_append named.chars ends named.nonempty]

theorem dollar_none {c : CodePoint} (other : c ≠ .char '$') (rest : Text) :
    dollar (c :: rest) = none := by
  refine Reader.bind_none ?_ _
  rw [Reader.char_cons, if_neg (by simpa using other)]

theorem dollar_alone {after : Text} (ends : Reader.Ends isWordChar after) :
    dollar (.char '$' :: after) = none := by
  rw [dollar, Reader.bind_some (Reader.char_some (by decide) _), Reader.many1_none ends]

/-! ## Taking a text apart -/

/-- A text taken apart into placeholders in braces, dollar signs with the word characters
behind them, and other characters. -/
inductive Pieces : Text → Prop
  | nil : Pieces []
  | braced {name after : Text} (named : IsName name) (later : Pieces after) :
      Pieces (name.enclosed '{' '}' ++ after)
  | dollar {row after : Text} (word : ∀ c ∈ row, isWordChar c = true)
      (ends : Reader.Ends isWordChar after) (later : Pieces after) :
      Pieces (.char '$' :: row ++ after)
  | plain {c : CodePoint} {after : Text} (failed : Placeholder.braced (c :: after) = none)
      (other : c ≠ .char '$') (later : Pieces after) : Pieces (c :: after)

theorem pieces (t : Text) : Pieces t := by
  match t with
  | [] => exact .nil
  | c :: rest =>
    by_cases dollar : c = .char '$'
    · subst dollar
      have shorter : (rest.dropWhile isWordChar).length ≤ rest.length :=
        (List.dropWhile_sublist isWordChar).length_le
      have word : ∀ c ∈ rest.takeWhile isWordChar, isWordChar c = true :=
        List.all_eq_true.mp List.all_takeWhile
      have ends : Reader.Ends isWordChar (rest.dropWhile isWordChar) := by
        intro c first
        have failed := List.head?_dropWhile_not isWordChar rest
        rw [Option.mem_def.mp first] at failed
        exact failed
      have taken := Pieces.dollar word ends (pieces (rest.dropWhile isWordChar))
      rw [List.cons_append, List.takeWhile_append_dropWhile] at taken
      exact taken
    · cases read : braced (c :: rest) with
      | none => exact .plain read dollar (pieces rest)
      | some result =>
          obtain ⟨name, after⟩ := result
          obtain ⟨named, spelled⟩ := braced_eq_some read
          have shorter : after.length ≤ rest.length := by
            have whole := congrArg List.length spelled
            simp only [Text.enclosed, List.length_append, List.length_cons, List.length_nil] at whole
            omega
          rw [spelled]
          exact .braced named (pieces after)
termination_by t.length

/-! ## Replacing all at once -/

theorem both_braced {name : Text} (named : IsName name) (after : Text) :
    (braced <|> dollar) (name.enclosed '{' '}' ++ after) = some (name, after) :=
  Reader.or_some (braced_read named after) _

theorem both_dollar {name after : Text} (named : IsName name)
    (ends : Reader.Ends isWordChar after) :
    (braced <|> dollar) (.char '$' :: name ++ after) = some (name, after) := by
  have other : braced (.char '$' :: name ++ after) = none := braced_none (by decide) _
  exact (Reader.or_none other _).trans (dollar_read named ends)

/-- Neither reader reads at a character at which none of them does. -/
theorem both_none {c : CodePoint} {after : Text} (first : braced (c :: after) = none)
    (second : dollar (c :: after) = none) : (braced <|> dollar) (c :: after) = none :=
  (Reader.or_none first _).trans second

/-! ## Two passes as one -/

/-- The first pass puts no word character in front where only a placeholder without a value
can stand there. -/
theorem ends_unbraced {after : Text} (ends : Reader.Ends isWordChar after)
    (free : ∀ name rest, after = name.enclosed '{' '}' ++ rest → IsName name →
      bindings.get? name = none) :
    Reader.Ends isWordChar (unbraced bindings after) := by
  cases after with
  | nil =>
      rw [unbraced, Search.splice_nil]
      exact ends
  | cons c rest =>
      cases read : braced (c :: rest) with
      | none =>
          rw [unbraced, Search.splice_none read]
          exact Reader.ends_cons (ends c rfl) _
      | some result =>
          obtain ⟨name, behind⟩ := result
          obtain ⟨named, spelled⟩ := braced_eq_some read
          have kept : shown bindings (name.enclosed '{' '}') name = name.enclosed '{' '}' := by
            rw [shown, free name behind spelled named]
          have some_ : name.enclosed '{' '}' ≠ [] := List.cons_ne_nil _ _
          rw [spelled, unbraced, Search.splice_some some_ (braced_read named behind), kept]
          exact Reader.ends_cons (by decide +kernel) _

/-- Where a value brings no dollar sign with it, none stands in what is put for a placeholder
in braces. -/
theorem dollar_not_mem_shown {name : Text} (named : IsName name)
    (clear : ∀ binding, bindings.get? name = some binding →
      (.char '$' : CodePoint) ∉ binding.spelling) :
    (.char '$' : CodePoint) ∉ shown bindings (name.enclosed '{' '}') name := by
  unfold shown
  split
  · next binding bound => exact clear binding bound
  · have other : (.char '$' : CodePoint) ∉ name := fun mem => by
      have word := named.chars _ mem
      revert word
      decide +kernel
    simp [Text.enclosed, other]

/-- The first pass keeps a dollar sign with the word characters behind it. -/
theorem braced_none_of_row {row : Text} (word : ∀ c ∈ row, isWordChar c = true) :
    ∀ c ∈ .char '$' :: row, ∀ rest, braced (c :: rest) = none := by
  intro c mem rest
  refine braced_none (fun brace => ?_) rest
  subst brace
  rcases List.mem_cons.mp mem with sign | mem
  · revert sign
    decide
  · have class_ := word _ mem
    revert class_
    decide +kernel

/-- What two passes over a text do: they put some numbers into it, in whatever order, and leave
another text. -/
structure Fills (bindings : Bindings) (t : Text) (numbers : List Int) (result : Text) : Prop where
  text : filled bindings t = result
  numbers : (insertions bindings t).Perm numbers

/-- To fill in a text is to write what the passes leave. -/
theorem Fills.fill {t result : Text} {numbers : List Int}
    (fills : Fills bindings t numbers result) :
    fill bindings t = Decimal.writing numbers result := by
  rw [fill_eq, fills.text]
  exact Decimal.writing_congr (fun n _ => fills.numbers.mem_iff) _

theorem fills_self (bindings : Bindings) (t : Text) :
    Fills bindings t (insertions bindings t) (filled bindings t) :=
  ⟨rfl, List.Perm.refl _⟩

theorem fills_nil (bindings : Bindings) : Fills bindings [] [] [] where
  text := filled_empty bindings
  numbers := by
    rw [insertions_empty]

section Pieces

variable {after result : Text} {numbers : List Int} (fills : Fills bindings after numbers result)
include fills

theorem Fills.braced {name : Text} (named : IsName name)
    (clear : (.char '$' : CodePoint) ∉ shown bindings (name.enclosed '{' '}') name) :
    Fills bindings (name.enclosed '{' '}' ++ after) (Placeholder.numbers bindings name ++ numbers)
      (shown bindings (name.enclosed '{' '}') name ++ result) := by
  have some_ : name.enclosed '{' '}' ≠ [] := List.cons_ne_nil _ _
  have kept : ∀ c ∈ shown bindings (name.enclosed '{' '}') name, ∀ rest, dollar (c :: rest) = none :=
    fun c mem rest => dollar_none (fun same => clear (same ▸ mem)) rest
  have first : unbraced bindings (name.enclosed '{' '}' ++ after) =
      shown bindings (name.enclosed '{' '}') name ++ unbraced bindings after :=
    Search.splice_some some_ (braced_read named after)
  constructor
  · rw [filled, first, Search.splice_append kept]
    exact congrArg (_ ++ ·) fills.text
  · rw [insertions, first, inserted_append bindings kept,
      inserted_some bindings some_ (braced_read named after), List.append_assoc]
    exact fills.numbers.append_left _

theorem Fills.dollar {row : Text} (named : IsName row)
    (ends : Reader.Ends isWordChar (unbraced bindings after)) :
    Fills bindings (.char '$' :: row ++ after) (Placeholder.numbers bindings row ++ numbers)
      (shown bindings (.char '$' :: row) row ++ result) := by
  have some_ : .char '$' :: row ≠ [] := List.cons_ne_nil _ _
  have passed := braced_none_of_row named.chars
  have first : unbraced bindings (.char '$' :: row ++ after) =
      .char '$' :: row ++ unbraced bindings after :=
    Search.splice_append passed after
  constructor
  · rw [filled, first, Search.splice_some some_ (dollar_read named ends)]
    exact congrArg (_ ++ ·) fills.text
  · rw [insertions, first, inserted_append bindings passed,
      inserted_some bindings some_ (dollar_read named ends)]
    have swapped := List.perm_append_comm_assoc (inserted bindings Placeholder.braced after)
      (Placeholder.numbers bindings row)
      (inserted bindings Placeholder.dollar (unbraced bindings after))
    exact swapped.trans (fills.numbers.append_left _)

/-- Where neither pass reads anything, a character is kept. -/
theorem Fills.plain {c : CodePoint} (first : Placeholder.braced (c :: after) = none)
    (second : Placeholder.dollar (c :: unbraced bindings after) = none) :
    Fills bindings (c :: after) numbers (c :: result) := by
  have kept : unbraced bindings (c :: after) = c :: unbraced bindings after :=
    Search.splice_none first
  constructor
  · rw [filled, kept, Search.splice_none second]
    exact congrArg (c :: ·) fills.text
  · rw [insertions, kept, inserted_none bindings first, inserted_none bindings second]
    exact fills.numbers

/-- A text without the marks of placeholders is kept. -/
theorem Fills.silent {front : Text} (silent : ∀ c ∈ front, c ≠ .char '{' ∧ c ≠ .char '$') :
    Fills bindings (front ++ after) numbers (front ++ result) := by
  induction front with
  | nil => exact fills
  | cons c rest ih =>
      obtain ⟨⟨brace, sign⟩, later⟩ := List.forall_mem_cons.mp silent
      exact (ih later).plain (braced_none brace _) (dollar_none sign _)

end Pieces

/-- Where no value gets entangled, to replace first the placeholders in braces and then those
with a dollar sign is to replace all at once. -/
theorem fills_simultaneous {t : Text} (separate : ¬Entangled bindings t) :
    Fills bindings t (inserted bindings (braced <|> dollar) t) (simultaneous bindings t) := by
  induction pieces t with
  | nil =>
      rw [inserted, Search.hits_nil, simultaneous, Search.splice_nil]
      exact fills_nil bindings
  | @braced name after named later ih =>
      -- What is put in place holds no dollar sign, so that the second pass keeps it.
      have clear := dollar_not_mem_shown named fun binding bound mem =>
        separate ⟨[], name, after, binding, rfl, named, bound, .inl mem⟩
      have some_ : name.enclosed '{' '}' ≠ [] := List.cons_ne_nil _ _
      rw [simultaneous, Search.splice_some some_ (both_braced named after),
        inserted_some bindings some_ (both_braced named after)]
      exact (ih fun tangled => separate (tangled.append _)).braced named clear
  | @dollar row after word ends later ih =>
      -- No value follows the row, so that the second pass finds it as it was.
      have free (name rest : Text) (spelled : after = name.enclosed '{' '}' ++ rest)
          (named : IsName name) : bindings.get? name = none := by
        refine Option.eq_none_iff_forall_ne_some.mpr fun binding bound => separate ?_
        exact ⟨.char '$' :: row, name, rest, binding, by rw [spelled], named, bound,
          .inr ⟨[], row, rfl, word⟩⟩
      have kept := ends_unbraced ends free
      have rest := ih fun tangled => separate (tangled.append _)
      by_cases empty : row = []
      · subst empty
        have none_ := both_none (braced_none (by decide) after) (dollar_alone ends)
        rw [List.cons_append, List.nil_append, simultaneous, Search.splice_none none_,
          inserted_none bindings none_]
        exact rest.plain (braced_none (by decide) _) (dollar_alone kept)
      · have named : IsName row := ⟨empty, word⟩
        have some_ : .char '$' :: row ≠ [] := List.cons_ne_nil _ _
        rw [simultaneous, Search.splice_some some_ (both_dollar named ends),
          inserted_some bindings some_ (both_dollar named ends)]
        exact rest.dollar named kept
  | @plain c after failed other later ih =>
      have none_ := both_none failed (dollar_none other after)
      rw [simultaneous, Search.splice_none none_, inserted_none bindings none_]
      exact (ih fun tangled => separate (tangled.append [c])).plain failed (dollar_none other _)

/-- To substitute variables is to replace all their placeholders at once, unless a value that
takes the place of a placeholder in braces can become part of another one, or a placeholder
stands for a number that is too long to be written, which is then what is complained about. -/
theorem substitute_simultaneous (vars : Variables) (t : Text) :
    substitute vars t = (simultaneous · t) <$> vars.bind ∨
      ∃ bindings, vars.bind = .ok bindings ∧
        (Entangled bindings t ∨
          Overlong bindings t ∧ substitute vars t = .error .unwritable) := by
  cases bound : vars.bind with
  | error fault =>
      rw [substitute, bound]
      exact .inl rfl
  | ok bindings =>
      have filled : substitute vars t = fill bindings t := by
        rw [substitute, bound]
        rfl
      by_cases separate : Entangled bindings t
      · exact .inr ⟨bindings, rfl, .inl separate⟩
      · rw [filled, (fills_simultaneous separate).fill]
        rcases Decimal.fits_or_not (inserted bindings (braced <|> dollar) t) with fit | long
        · exact .inl (Decimal.writing_of_fits fit _)
        · exact .inr ⟨bindings, rfl, .inr ⟨long, Decimal.writing_of_not_fits long _⟩⟩

/-- A value that takes the place of a placeholder in braces is read again where it holds a
placeholder with a dollar sign. -/
theorem substitute_not_simultaneous :
    ¬∀ (vars : Variables) (t : Text), substitute vars t = (simultaneous · t) <$> vars.bind := by
  intro once
  have same := congrArg Except.toOption
    (once [("A", .text "$B"), ("B", .text "x")] "\x7bA\x7d")
  revert same
  decide +kernel

end Placeholder

end DoubleEntry
