import DoubleEntry.Proofs.Text.Places
import DoubleEntry.Proofs.Text.Reading
import DoubleEntry.Proofs.Text.Search

/-!
# Where reading ends

Some readers see the end of what they read by a character that they take. What they read does
not hang on what stands behind it, so that it is read again on its own. Others never get past a
certain character, so that what stands behind it is searched on its own.
-/

namespace DoubleEntry

namespace Reader

variable {α β : Type}

/-- Whether what a reader takes is read alike in front of any text. -/
def IsDelimited (r : Reader α) : Prop :=
  ∀ ⦃t rest : Text⦄ ⦃value : α⦄, r t = some (value, rest) →
    ∃ w, t = w ++ rest ∧ ∀ after, r (w ++ after) = some (value, after)

theorem isDelimited_pure (value : α) : (pure value : Reader α).IsDelimited := by
  intro t rest found h
  obtain ⟨rfl, rfl⟩ := Prod.mk.inj (Option.some.inj h)
  exact ⟨[], rfl, fun _ => rfl⟩

theorem isDelimited_enclosed (opening closing : CodePoint) :
    (enclosed opening closing).IsDelimited := by
  intro t rest inner h
  obtain ⟨free, split⟩ := enclosed_eq_some h
  exact ⟨_, split, enclosed_append free⟩

theorem IsDelimited.bind {r : Reader α} {next : α → Reader β} (first : r.IsDelimited)
    (later : ∀ value, (next value).IsDelimited) : (r >>= next).IsDelimited := by
  intro t rest value h
  obtain ⟨found, mid, read, behind⟩ := bind_eq_some.mp h
  obtain ⟨w, rfl, here⟩ := first read
  obtain ⟨further, rfl, there⟩ := later found behind
  refine ⟨w ++ further, (List.append_assoc w further rest).symm, fun after => ?_⟩
  rw [List.append_assoc, bind_some (here _), there]

/-- What a delimited reader reads in a text it reads in front of more as well. -/
theorem IsDelimited.append {r : Reader α} (delimited : r.IsDelimited) {t rest : Text} {value : α}
    (read : r t = some (value, rest)) (more : Text) :
    r (t ++ more) = some (value, rest ++ more) := by
  obtain ⟨w, rfl, alike⟩ := delimited read
  rw [List.append_assoc, alike]

/-- As many characters are passed over in front of what a delimited reader takes when nothing
stands behind it. -/
theorem IsDelimited.upTo_alone {r : Reader α} (delimited : r.IsDelimited)
    {allowed : CodePoint → Bool} {passed w rest : Text} {value : α}
    (alike : ∀ after, r (w ++ after) = some (value, after))
    (read : upTo allowed r (passed ++ (w ++ rest)) = some ((passed, value), rest)) :
    upTo allowed r (passed ++ w) = some ((passed, value), []) := by
  induction passed with
  | nil =>
      have alone : r w = some (value, []) := by rw [← alike [], List.append_nil]
      rw [List.nil_append, upTo.eq_def, alone]
  | cons c passed ih =>
      rw [List.cons_append, upTo.eq_def] at read
      cases tried : r (c :: (passed ++ (w ++ rest))) with
      | some result =>
          rw [tried] at read
          cases read
      | none =>
          rw [tried] at read
          dsimp only at read
          obtain ⟨may, further⟩ := Option.ite_none_right_eq_some.mp read
          have later : upTo allowed r (passed ++ (w ++ rest)) = some ((passed, value), rest) := by
            split at further
            · next row found left reached =>
                obtain ⟨same, rfl⟩ := Prod.mk.inj (Option.some.inj further)
                obtain ⟨row, rfl⟩ := Prod.mk.inj same
                rw [reached, (List.cons.inj row).2]
            · cases further
          have failed : r (c :: (passed ++ w)) = none := by
            refine Option.eq_none_iff_forall_ne_some.mpr fun ⟨found, left⟩ early => ?_
            have longer := delimited.append early rest
            rw [List.cons_append, List.append_assoc, tried] at longer
            cases longer
          rw [List.cons_append, upTo.eq_def, failed]
          dsimp only
          rw [if_pos may, ih later]

theorem IsDelimited.upTo1_alone {r : Reader α} (delimited : r.IsDelimited)
    {allowed : CodePoint → Bool} {passed w rest : Text} {value : α}
    (alike : ∀ after, r (w ++ after) = some (value, after))
    (read : upTo1 allowed r (passed ++ (w ++ rest)) = some ((passed, value), rest)) :
    upTo1 allowed r (passed ++ w) = some ((passed, value), []) := by
  obtain ⟨c, behind, first, reached⟩ := bind_eq_some.mp read
  obtain ⟨⟨others, found⟩, left, further, made⟩ := bind_eq_some.mp reached
  obtain ⟨same, rfl⟩ := Prod.mk.inj (Option.some.inj made)
  obtain ⟨rfl, rfl⟩ := Prod.mk.inj same
  obtain ⟨split, here⟩ := char_eq_some first
  obtain ⟨-, rfl⟩ := List.cons.inj split
  rw [List.cons_append, upTo1, bind_some (char_some here _),
    bind_some (delimited.upTo_alone alike further)]
  rfl

/-! ## Characters that stop a reader -/

/-- Whether a reader does with a text in front of a certain character whatever it does with it,
no matter what stands behind the character. -/
def StopsAt (stop : CodePoint) (r : Reader α) : Prop :=
  ∀ s, (∃ value rest, ∀ after, r (s ++ stop :: after) = some (value, rest ++ stop :: after)) ∨
    ∀ after, r (s ++ stop :: after) = none

section StopsAt

variable {stop : CodePoint}

theorem stopsAt_pure (value : α) : (pure value : Reader α).StopsAt stop :=
  fun s => Or.inl ⟨value, s, fun _ => rfl⟩

theorem stopsAt_char {test : CodePoint → Bool} (foreign : test stop = false) :
    (char test).StopsAt stop := by
  intro s
  cases s with
  | nil => exact Or.inr fun after => char_none (ends_cons foreign after)
  | cons c rest =>
      cases passed : test c with
      | true => exact Or.inl ⟨c, rest, fun after => char_some passed _⟩
      | false => exact Or.inr fun after => char_none (ends_cons passed _)

theorem stopsAt_many1 {test : CodePoint → Bool} (foreign : test stop = false) :
    (many1 test).StopsAt stop := by
  intro s
  have split := List.takeWhile_append_dropWhile (p := test) (l := s)
  have all : ∀ c ∈ s.takeWhile test, test c = true := List.all_eq_true.mp List.all_takeWhile
  have ends (after : Text) : Ends test (s.dropWhile test ++ stop :: after) := by
    cases left : s.dropWhile test with
    | nil => exact ends_cons foreign after
    | cons c rest =>
        have failed := List.head?_dropWhile_not test s
        rw [left] at failed
        exact ends_cons failed _
  by_cases some_ : s.takeWhile test = []
  · right
    intro after
    have read := many1_none (ends after)
    rw [← split, some_]
    exact read
  · left
    refine ⟨s.takeWhile test, s.dropWhile test, fun after => ?_⟩
    have read := many1_append all (ends after) some_
    rwa [← List.append_assoc, split] at read

theorem StopsAt.bind {r : Reader α} {next : α → Reader β} (first : r.StopsAt stop)
    (later : ∀ value, (next value).StopsAt stop) : (r >>= next).StopsAt stop := by
  intro s
  obtain ⟨value, rest, read⟩ | failed := first s
  · obtain ⟨found, left, behind⟩ | refused := later value rest
    · exact Or.inl ⟨found, left, fun after => (bind_some (read after) next).trans (behind after)⟩
    · exact Or.inr fun after => (bind_some (read after) next).trans (refused after)
  · exact Or.inr fun after => bind_none (failed after) next

end StopsAt

end Reader

namespace Search

section Stop

variable {α : Type} {r : Reader α} {stop : CodePoint} (stops : r.StopsAt stop)
  (takes : r.TakesFront)
include stops takes

/-- What stands in front of a character that stops a reader is taken apart without regard to
what stands behind it. -/
theorem parts_stop (front : Text) :
    ∃ done, ∀ after, parts anywhere r none (front ++ stop :: after) =
      done ++ .plain stop :: parts anywhere r none after := by
  generalize size : front.length = n
  induction n using Nat.strong_induction_on generalizing front with
  | _ n ih =>
      subst size
      obtain ⟨value, rest, read⟩ | failed := stops front
      · -- What is read lies within the front, so that a shorter one is left.
        obtain ⟨w, some_, split⟩ := takes (read [])
        obtain rfl : front = w ++ rest := by
          rw [← List.append_assoc] at split
          exact List.append_cancel_right split
        have shorter : rest.length < (w ++ rest).length := by
          rw [List.length_append]
          have := List.length_pos_iff.mpr some_
          omega
        obtain ⟨done, apart⟩ := ih rest.length shorter rest rfl
        refine ⟨.hit w value :: done, fun after => ?_⟩
        have here := read after
        rw [List.append_assoc] at here ⊢
        rw [parts_some rfl some_ here, parts_before _ none, apart, List.cons_append]
      · cases front with
        | nil => exact ⟨[], fun after => parts_none (failed after)⟩
        | cons c rest =>
            obtain ⟨done, apart⟩ := ih rest.length (Nat.lt_succ_self _) rest rfl
            refine ⟨.plain c :: done, fun after => ?_⟩
            have here := failed after
            rw [List.cons_append] at here ⊢
            rw [parts_none here, apart, List.cons_append]

/-- Behind a character that stops a reader a text is taken apart anew. -/
theorem parts_append_stop (front after : Text) :
    parts anywhere r none (front ++ stop :: after) =
      parts anywhere r none (front ++ [stop]) ++ parts anywhere r none after := by
  obtain ⟨done, apart⟩ := parts_stop stops takes front
  have ended : parts anywhere r none [] = [] := by rw [parts]
  rw [apart after, apart [], ended, List.append_assoc, List.singleton_append]

theorem hits_append_stop (front after : Text) :
    hits r (front ++ stop :: after) = hits r (front ++ [stop]) ++ hits r after := by
  rw [hits, parts_append_stop stops takes]
  exact List.filterMap_append

theorem splice_append_stop (put : Text → α → Text) (front after : Text) :
    splice r put (front ++ stop :: after) = splice r put (front ++ [stop]) ++ splice r put after := by
  rw [splice, parts_append_stop stops takes, List.flatMap_append]
  rfl

/-- The character itself is kept at the end of what is in front. -/
theorem splice_stop (put : Text → α → Text) (front : Text) :
    ∃ done, splice r put (front ++ [stop]) = done ++ [stop] := by
  obtain ⟨done, apart⟩ := parts_stop stops takes front
  have ended : parts anywhere r none [] = [] := by rw [parts]
  refine ⟨done.flatMap (Part.rewritten put), ?_⟩
  rw [splice, apart [], ended, List.flatMap_append]
  rfl

end Stop

/-- A text that is read as a whole is all that is found in it. -/
theorem all_whole {α : Type} {gate : Gate} {r : Reader α} (isOpen : gate none = true)
    {w : Text} {value : α} (some_ : w ≠ []) (read : r w = some (value, [])) :
    all gate r w = [⟨0, w, value⟩] := by
  have whole : r (w ++ []) = some (value, []) := by rw [List.append_nil, read]
  have ended : parts gate r w.getLast? [] = [] := by rw [parts]
  have row := parts_some isOpen some_ whole
  rw [List.append_nil, ended] at row
  rw [all, row]
  rfl

end Search

end DoubleEntry
