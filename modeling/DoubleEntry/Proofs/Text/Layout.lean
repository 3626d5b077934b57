import DoubleEntry.Proofs.Text.Characters
import DoubleEntry.Proofs.Text.Reader
import DoubleEntry.Proofs.Text.Reading
import Mathlib.Data.List.Basic

/-!
# Layout

Tokens are laid out with any blanks between neighbours, but at least one. Blanks and
tokens do not mix: what is looked for without a blank is found within one token.
-/

namespace DoubleEntry.Text

/-- Whether a text is some blanks and nothing else. -/
structure IsGap (gap : Text) : Prop where
  nonempty : gap ≠ []
  blank : ∀ c ∈ gap, isBlank c = true

/-- Whether a text is some characters, none of which is blank. -/
structure IsToken (w : Text) : Prop where
  nonempty : w ≠ []
  solid : ∀ c ∈ w, isBlank c = false

/-- Tokens in order, each behind a gap. -/
inductive Trail : List Text → Text → Prop
  | nil : Trail [] []
  | cons {gap token later : Text} {rest : List Text} (apart : IsGap gap)
      (trail : Trail rest later) : Trail (token :: rest) (gap ++ (token ++ later))

/-- Tokens in order, with a gap between neighbours. -/
def LaidOut : List Text → Text → Prop
  | [], t => t = []
  | first :: rest, t => ∃ later, t = first ++ later ∧ Trail rest later

/-- With single spaces tokens are laid out. -/
theorem laidOut_join (tokens : List Text) : LaidOut tokens (join " " tokens) := by
  have space : IsGap " " := ⟨by decide, by decide⟩
  have trail (first : Text) (rest : List Text) :
      ∃ later, join " " (first :: rest) = first ++ later ∧ Trail rest later := by
    induction rest generalizing first with
    | nil => exact ⟨[], (List.append_nil first).symm, Trail.nil⟩
    | cons next rest ih =>
        obtain ⟨later, joined, trail⟩ := ih next
        refine ⟨" " ++ (next ++ later), ?_, Trail.cons space trail⟩
        rw [join, joined, List.append_assoc]
  cases tokens with
  | nil => rfl
  | cons first rest => exact trail first rest

/-! ## Taking a layout apart -/

theorem trail_cons {token t : Text} {rest : List Text} :
    Trail (token :: rest) t ↔
      ∃ gap later, t = gap ++ (token ++ later) ∧ IsGap gap ∧ Trail rest later := by
  constructor
  · rintro (_ | ⟨apart, trail⟩)
    exact ⟨_, _, rfl, apart, trail⟩
  · rintro ⟨gap, later, rfl, apart, trail⟩
    exact Trail.cons apart trail

theorem trail_append {first second : List Text} {t : Text} :
    Trail (first ++ second) t ↔ ∃ u v, t = u ++ v ∧ Trail first u ∧ Trail second v := by
  induction first generalizing t with
  | nil =>
      constructor
      · intro trail
        exact ⟨[], t, rfl, Trail.nil, trail⟩
      · rintro ⟨u, v, rfl, (_ | _), trail⟩
        exact trail
  | cons token rest ih =>
      rw [List.cons_append, trail_cons]
      constructor
      · rintro ⟨gap, later, rfl, apart, trail⟩
        obtain ⟨u, v, rfl, here, there⟩ := ih.mp trail
        exact ⟨gap ++ (token ++ u), v, by simp, Trail.cons apart here, there⟩
      · rintro ⟨u, v, rfl, here, there⟩
        obtain ⟨gap, later, rfl, apart, trail⟩ := trail_cons.mp here
        exact ⟨gap, later ++ v, by simp, apart, ih.mpr ⟨later, v, rfl, trail, there⟩⟩

theorem Trail.mem {tokens : List Text} {t : Text} (trail : Trail tokens t) {c : CodePoint}
    (mem : c ∈ t) : isBlank c = true ∨ ∃ token ∈ tokens, c ∈ token := by
  induction trail with
  | nil => cases mem
  | @cons gap token later rest apart trail ih =>
      rcases List.mem_append.mp mem with between | behind
      · exact Or.inl (apart.blank c between)
      · rcases List.mem_append.mp behind with here | there
        · exact Or.inr ⟨token, List.mem_cons_self, here⟩
        · refine (ih there).imp_right ?_
          rintro ⟨other, listed, found⟩
          exact ⟨other, List.mem_cons_of_mem _ listed, found⟩

theorem Trail.notMem {tokens : List Text} {t : Text} (trail : Trail tokens t) {c : CodePoint}
    (solid : isBlank c = false) (free : ∀ token ∈ tokens, c ∉ token) : c ∉ t := by
  intro mem
  rcases trail.mem mem with blank | ⟨token, listed, inside⟩
  · rw [solid] at blank
    cases blank
  · exact free token listed inside

theorem Trail.notMem_gap {tokens : List Text} {t gap : Text} (trail : Trail tokens t)
    (last : IsGap gap) {c : CodePoint} (solid : isBlank c = false)
    (free : ∀ token ∈ tokens, c ∉ token) : c ∉ t ++ gap := by
  rw [List.mem_append, not_or]
  refine ⟨trail.notMem solid free, fun mem => ?_⟩
  rw [last.blank c mem] at solid
  cases solid

/-! ## What comes next -/

/-- Whether nothing or a blank comes next. -/
def Parted (after : Text) : Prop := ∀ c ∈ after.head?, isBlank c = true

theorem parted_nil : Parted [] := by
  intro c mem
  cases mem

theorem IsGap.parted {gap : Text} (apart : IsGap gap) (after : Text) : Parted (gap ++ after) := by
  obtain ⟨c, rest, rfl⟩ := List.exists_cons_of_ne_nil apart.nonempty
  intro first mem
  obtain rfl := Option.some.inj mem
  exact apart.blank _ List.mem_cons_self

theorem Trail.parted {tokens : List Text} {t after : Text} (trail : Trail tokens t)
    (parted : Parted after) : Parted (t ++ after) := by
  cases trail with
  | nil => exact parted
  | cons apart trail =>
      rw [List.append_assoc]
      exact apart.parted _

theorem Parted.ends {after : Text} (parted : Parted after) {test : CodePoint → Bool}
    (fails : ∀ c, isBlank c = true → test c = false) : Reader.Ends test after :=
  fun c mem => fails c (parted c mem)

theorem IsToken.ends {w : Text} (token : IsToken w) (after : Text) :
    Reader.Ends isBlank (w ++ after) := by
  refine Reader.Ends.append (fun c mem => ?_) token.nonempty after
  exact token.solid c (List.mem_of_mem_head? mem)

theorem blanks_append {gap after : Text} (blank : ∀ c ∈ gap, isBlank c = true)
    (ends : Reader.Ends isBlank after) : Reader.blanks (gap ++ after) = some ((), after) :=
  Reader.bind_some (Reader.many_append blank ends) _

theorem dropWhile_append {row after : Text} (blank : ∀ c ∈ row, isBlank c = true)
    (ends : Reader.Ends isBlank after) : (row ++ after).dropWhile isBlank = after :=
  (Prod.mk.inj (Option.some.inj (blanks_append blank ends))).2

theorem blanks_solid {t : Text} (ends : Reader.Ends isBlank t) : Reader.blanks t = some ((), t) :=
  @blanks_append [] t nofun ends

theorem IsGap.read {gap after : Text} (apart : IsGap gap) (ends : Reader.Ends isBlank after) :
    Reader.gap (gap ++ after) = some ((), after) :=
  Reader.bind_some (Reader.many1_append apart.blank ends apart.nonempty) _

theorem blanks_eq_some {t rest : Text} (h : Reader.blanks t = some ((), rest)) :
    ∃ row, t = row ++ rest ∧ ∀ c ∈ row, isBlank c = true := by
  obtain ⟨row, after, passed, made⟩ := Reader.bind_eq_some.mp h
  obtain ⟨rfl, rfl⟩ := Prod.mk.inj (Option.some.inj passed)
  obtain rfl := (Prod.mk.inj (Option.some.inj made)).2
  exact ⟨_, List.takeWhile_append_dropWhile.symm, List.all_eq_true.mp List.all_takeWhile⟩

theorem gap_eq_some {t rest : Text} (h : Reader.gap t = some ((), rest)) :
    ∃ gap, t = gap ++ rest ∧ IsGap gap := by
  obtain ⟨gap, after, passed, made⟩ := Reader.bind_eq_some.mp h
  obtain rfl := (Prod.mk.inj (Option.some.inj made)).2
  obtain ⟨nonempty, blank⟩ := Reader.many1_all passed
  exact ⟨gap, Reader.many1_eq_some passed, nonempty, blank⟩

/-- Behind a gap a word is not read that does not begin with what comes next. -/
theorem gap_word_none {α : Type} {c : CodePoint} {after : Text}
    (other : (after.dropWhile isBlank).head? ≠ some c) (w : Text) (next : Unit → Reader α) :
    (Reader.gap >>= fun _ => Reader.word (c :: w) >>= next) after = none := by
  cases blank : after.takeWhile isBlank with
  | nil =>
      refine Reader.bind_none ?_ _
      refine Reader.bind_none ?_ _
      rw [Reader.many1, blank]
  | cons first row =>
      have passed : Reader.gap after = some ((), after.dropWhile isBlank) := by
        have taken : Reader.many1 isBlank after =
            some (first :: row, after.dropWhile isBlank) := by
          rw [Reader.many1, blank]
        exact Reader.bind_some taken _
      rw [Reader.bind_some passed]
      exact Reader.bind_none (Reader.word_none other w) _

/-! ## Stripping -/

theorem strip_eq_self {t : Text} (head : Reader.Ends isBlank t)
    (last : Reader.Ends isBlank t.reverse) : t.strip = t := by
  have keep {t : Text} (ends : Reader.Ends isBlank t) : t.dropWhile isBlank = t := by
    cases t with
    | nil => rfl
    | cons c rest =>
        have solid : isBlank c = false := ends c rfl
        rw [List.dropWhile_cons, solid]
        rfl
  rw [strip, keep head, keep last, List.reverse_reverse]

theorem strip_solid {t : Text} (solid : ∀ c ∈ t, isBlank c = false) : t.strip = t := by
  apply strip_eq_self
  · intro c first
    exact solid c (List.mem_of_mem_head? first)
  · intro c first
    exact solid c (List.mem_reverse.mp (List.mem_of_mem_head? first))

/-- What is left of a text without the blanks at its ends is a part of it. -/
theorem strip_infix (t : Text) : t.strip <:+: t := by
  have front : t.dropWhile isBlank <:+ t := List.dropWhile_suffix isBlank
  have back : (t.dropWhile isBlank).reverse.dropWhile isBlank <:+ (t.dropWhile isBlank).reverse :=
    List.dropWhile_suffix isBlank
  have left : t.strip <+: t.dropWhile isBlank := by
    rw [← List.reverse_suffix, strip, List.reverse_reverse]
    exact back
  exact left.isInfix.trans front.isInfix

theorem Trail.ends_reverse {tokens : List Text} {t : Text} (trail : Trail tokens t)
    (all : ∀ token ∈ tokens, IsToken token) {w : Text} (token : IsToken w) :
    Reader.Ends isBlank (w ++ t).reverse := by
  induction trail generalizing w with
  | nil =>
      have reversed : IsToken w.reverse :=
        ⟨mt List.reverse_eq_nil_iff.mp token.nonempty,
          fun c mem => token.solid c (List.mem_reverse.mp mem)⟩
      rw [List.append_nil, ← List.append_nil w.reverse]
      exact reversed.ends []
  | @cons gap next later rest apart trail ih =>
      have here := all next List.mem_cons_self
      have behind := ih (fun token mem => all token (List.mem_cons_of_mem _ mem)) here
      have some_ : (next ++ later).reverse ≠ [] := by
        simp [here.nonempty]
      rw [← List.append_assoc, List.reverse_append]
      exact behind.append some_ _

/-- Laid out tokens have no blanks at their ends. -/
theorem LaidOut.strip_eq_self {tokens : List Text} {t : Text} (laid : LaidOut tokens t)
    (all : ∀ token ∈ tokens, IsToken token) : t.strip = t := by
  cases tokens with
  | nil =>
      obtain rfl := laid
      rfl
  | cons first rest =>
      obtain ⟨later, rfl, trail⟩ := laid
      have token := all first List.mem_cons_self
      exact Text.strip_eq_self (token.ends later)
        (trail.ends_reverse (fun token mem => all token (List.mem_cons_of_mem _ mem)) token)

/-! ## Occurrences -/

theorem occursIn_iff {part t : Text} : occursIn part t = true ↔ part <:+: t := by
  induction t with
  | nil => rw [occursIn, List.isEmpty_iff, List.infix_nil]
  | cons c rest ih =>
      rw [occursIn, Bool.or_eq_true, List.isPrefixOf_iff_prefix, ih, List.infix_cons_iff]

/-- What has no blank occurs on one side of a blank. -/
theorem infix_cons_blank {part before after : Text} (solid : ∀ c ∈ part, isBlank c = false)
    {c : CodePoint} (blank : isBlank c = true) :
    part <:+: before ++ c :: after ↔ part <:+: before ∨ part <:+: after := by
  have absent : c ∉ part := by
    intro mem
    rw [solid c mem] at blank
    cases blank
  have cut {front : Text} (h : front <+: c :: after) (inside : ∀ d ∈ front, d ∈ part) :
      front = [] := by
    rcases List.prefix_cons_iff.mp h with none | ⟨rest, rfl, -⟩
    · exact none
    · exact absurd (inside c List.mem_cons_self) absent
  rw [List.infix_append_iff, List.infix_cons_iff]
  constructor
  · rintro (here | (front | there) | ⟨first, second, rfl, behind, front⟩)
    · exact Or.inl here
    · rw [cut front fun _ => id]
      exact Or.inl (List.nil_infix)
    · exact Or.inr there
    · rw [cut front fun _ mem => List.mem_append_right _ mem, List.append_nil]
      exact Or.inl behind.isInfix
  · rintro (here | there)
    · exact Or.inl here
    · exact Or.inr (Or.inl (Or.inr there))

theorem infix_gap {part gap : Text} (solid : ∀ c ∈ part, isBlank c = false) (apart : IsGap gap)
    (before after : Text) :
    part <:+: before ++ (gap ++ after) ↔ part <:+: before ∨ part <:+: after := by
  have pass {row : Text} (blank : ∀ c ∈ row, isBlank c = true) :
      part <:+: row ++ after ↔ part <:+: after := by
    induction row with
    | nil => rfl
    | cons c row ih =>
        obtain ⟨here, later⟩ := List.forall_mem_cons.mp blank
        rw [← List.nil_append (c :: row ++ after), List.cons_append, infix_cons_blank solid here,
          ih later, List.infix_nil, or_iff_right_iff_imp]
        rintro rfl
        exact List.nil_infix
  obtain ⟨c, row, rfl⟩ := List.exists_cons_of_ne_nil apart.nonempty
  obtain ⟨here, later⟩ := List.forall_mem_cons.mp apart.blank
  rw [List.cons_append, infix_cons_blank solid here, pass later]

theorem Trail.infix_iff {tokens : List Text} {t : Text} (trail : Trail tokens t) {part : Text}
    (solid : ∀ c ∈ part, isBlank c = false) (w : Text) :
    part <:+: w ++ t ↔ part <:+: w ∨ ∃ token ∈ tokens, part <:+: token := by
  induction trail generalizing w with
  | nil => simp
  | cons apart trail ih => rw [infix_gap solid apart, ih, List.exists_mem_cons_iff]

/-- What has no blank occurs in laid out tokens just when it occurs in one of them. -/
theorem LaidOut.occursIn {tokens : List Text} {t : Text} (laid : LaidOut tokens t) {part : Text}
    (token : IsToken part) :
    occursIn part t = true ↔ ∃ token ∈ tokens, Text.occursIn part token = true := by
  simp only [occursIn_iff]
  cases tokens with
  | nil =>
      obtain rfl := laid
      simpa using token.nonempty
  | cons first rest =>
      obtain ⟨later, rfl, trail⟩ := laid
      rw [trail.infix_iff token.solid, List.exists_mem_cons_iff]

end DoubleEntry.Text
