import DoubleEntry.Address.Pattern
import DoubleEntry.Proofs.Text.Layout
import DoubleEntry.Proofs.Text.Pieces
import Mathlib.Data.List.Infix

/-!
# What patterns stand for

A pattern that ends in a colon stands for whatever begins as it does; one with two colons in a
row stands for all addresses that come from it by filling its empty segments; any other one
stands for itself. Blanking segments of a pattern only ever lets it stand for more.
-/

namespace DoubleEntry

namespace Address

theorem bare_cons_of_ne {c : CodePoint} (other : c ≠ '@') (t : Text) : bare (c :: t) = c :: t := by
  unfold bare
  split
  · next same => exact absurd (List.cons.inj same).1 other
  · rfl

/-- The sigil belongs to the first segment. -/
theorem bare_join (first : Text) (rest : List Text) :
    bare (Text.join [':'] (first :: rest)) = Text.join [':'] (bare first :: rest) := by
  cases rest with
  | nil => rfl
  | cons next more =>
      cases first with
      | nil => rfl
      | cons c later =>
          by_cases sigil : c = '@'
          · subst sigil
            rfl
          · change bare (c :: _) = _
            rw [bare_cons_of_ne sigil, bare_cons_of_ne sigil]
            rfl

theorem normalize_eq (address : Text) : normalize address = .char '@' :: bare address := by
  unfold normalize bare
  split <;> rfl

theorem mem_of_mem_bare {c : CodePoint} {address : Text} (mem : c ∈ bare address) :
    c ∈ address := by
  unfold bare at mem
  split at mem
  · exact List.mem_cons_of_mem _ mem
  · exact mem

end Address

namespace Pattern

/-- Whether a text can be obtained from a pattern by putting some text without a colon into
each of its empty segments and changing nothing else. -/
def Fills : Text → Text → Prop :=
  Text.Piecewise ':' fun segment filling => segment = [] ∨ filling = segment

/-- Whether one pattern is another one with some of its segments blanked. -/
def Blanks : Text → Text → Prop :=
  Text.Piecewise ':' fun segment left => left = [] ∨ left = segment

/-! ## The three rules -/

theorem isOpen_iff {pattern : Text} :
    isOpen pattern = true ↔ [.char ':'] <:+ Address.bare pattern := by
  rw [isOpen, decide_eq_true_eq, List.getLast?_eq_some_iff]
  exact exists_congr fun beginning => eq_comm

theorem hasHole_iff {pattern : Text} :
    hasHole pattern = true ↔ [.char ':', .char ':'] <:+: Address.bare pattern :=
  Text.occursIn_iff

/-- Segments are filled one by one. -/
theorem fills_iff {pattern address : List Text} :
    fills pattern address = true ↔
      List.Forall₂ (fun segment filling => segment = [] ∨ filling = segment) pattern address := by
  induction pattern generalizing address with
  | nil => cases address <;> simp [fills]
  | cons expected rest ih =>
      cases address with
      | nil => simp [fills]
      | cons actual others =>
          rw [fills, Bool.and_eq_true, ih, List.forall₂_cons, Bool.or_eq_true, List.isEmpty_iff,
            decide_eq_true_eq, @eq_comm _ actual]

/-- Only what a pattern begins with matters if it ends in a colon, only its holes if it has
some. -/
theorem accepts_iff {pattern address : Text} :
    accepts pattern address = true ↔
      if [.char ':'] <:+ Address.bare pattern then
        ∃ rest, Address.bare address = (Address.bare pattern).dropLast ++ rest
      else if [.char ':', .char ':'] <:+: Address.bare pattern then
        Fills (Address.bare pattern) (Address.bare address)
      else Address.bare address = Address.bare pattern := by
  unfold accepts
  simp only [isOpen_iff, hasHole_iff]
  split_ifs with ending hole
  · rw [List.isPrefixOf_iff_prefix]
    exact exists_congr fun rest => eq_comm
  · exact fills_iff.trans Text.piecewise_iff.symm
  · exact decide_eq_true_iff

/-- A pattern without wildcards stands for one address, however either is spelled. -/
theorem accepts_of_plain {pattern : Text} (plain : isWildcard pattern = false) (address : Text) :
    accepts pattern address = decide (Address.normalize address = Address.normalize pattern) := by
  obtain ⟨closed, whole⟩ := Bool.or_eq_false_iff.mp plain
  rw [accepts, if_neg (by simp [closed]), if_neg (by simp [whole]), Address.normalize_eq,
    Address.normalize_eq]
  simp

/-- Where no wildcard rule applies to the beginning, whatever a pattern stands for fills it. -/
theorem fills_of_accepts {pattern address : Text}
    (closed : ¬[.char ':'] <:+ Address.bare pattern)
    (accepted : accepts pattern address = true) :
    Fills (Address.bare pattern) (Address.bare address) := by
  rw [accepts_iff, if_neg closed] at accepted
  split_ifs at accepted
  · exact accepted
  · rw [accepted]
    exact Text.piecewise_self (fun _ => Or.inr rfl) _

/-! ## Blanking -/

/-- Without sigils, too, some segments are blanked. -/
theorem Blanks.bare {pattern blanked : Text} (blanks : Blanks pattern blanked) :
    Blanks (Address.bare pattern) (Address.bare blanked) := by
  obtain ⟨segments, left, nonempty, free, still, became, rfl, rfl⟩ := blanks
  obtain ⟨first, rest, rfl⟩ := List.exists_cons_of_ne_nil nonempty
  have trimmed {segment : Text} (absent : .char ':' ∉ segment) :
      .char ':' ∉ Address.bare segment := mt Address.mem_of_mem_bare absent
  cases became with
  | cons here later =>
      rw [Address.bare_join, Address.bare_join]
      obtain ⟨freeHere, freeLater⟩ := List.forall_mem_cons.mp free
      obtain ⟨stillHere, stillLater⟩ := List.forall_mem_cons.mp still
      refine ⟨_, _, List.cons_ne_nil _ _, List.forall_mem_cons.mpr ⟨trimmed freeHere, freeLater⟩,
        List.forall_mem_cons.mpr ⟨trimmed stillHere, stillLater⟩, List.Forall₂.cons ?_ later,
        rfl, rfl⟩
      rcases here with rfl | rfl
      · exact Or.inl rfl
      · exact Or.inr rfl

/-- What fills a pattern also fills it when some of its segments are blanked. -/
theorem Fills.of_blanks {pattern blanked address : Text} (filled : Fills pattern address)
    (blanks : Blanks pattern blanked) : Fills blanked address := by
  refine filled.between blanks fun segment filling left filledHere blankedHere => ?_
  rcases blankedHere with empty | same
  · exact Or.inl empty
  · rw [same]
    exact filledHere

/-- Sigils apart, a pattern that ends in a colon stands for whatever begins with what is in front
of this colon, one that has two colons in a row for what comes from it by putting texts without
a colon into its empty segments, and any other one for itself. So what is filled into the second
kind of pattern has as many colons; and if segments of a pattern that does not end in a colon
are blanked, and the result is of the second kind, it still stands for whatever it stood for. -/
theorem accepts_fillings (pattern address : Text) :
    let p := Address.bare pattern
    let a := Address.bare address
    (accepts pattern address = true ↔
      if [.char ':'] <:+ p then ∃ rest, a = p.dropLast ++ rest
      else if [.char ':', .char ':'] <:+: p then Fills p a
      else a = p) ∧
    (¬[.char ':'] <:+ p → [.char ':', .char ':'] <:+: p →
      accepts pattern address = true → a.count (.char ':') = p.count (.char ':')) ∧
    ∀ blanked, Blanks pattern blanked ∨ Blanks p (Address.bare blanked) →
      ¬[.char ':'] <:+ p → [.char ':', .char ':'] <:+: Address.bare blanked →
      ¬[.char ':'] <:+ Address.bare blanked →
      accepts pattern address = true → accepts blanked address = true := by
  intro p a
  refine ⟨accepts_iff, ?_, ?_⟩
  · intro closed _ accepted
    exact (fills_of_accepts closed accepted).count_eq
  · intro blanked blanks closed hole still accepted
    have bare : Blanks p (Address.bare blanked) := blanks.elim Blanks.bare id
    rw [accepts_iff, if_neg still, if_pos hole]
    exact (fills_of_accepts closed accepted).of_blanks bare

/-- The second segment of the address is filled in; with the first one blanked as well, and
another spelling, the pattern still stands for it. -/
theorem accepts_customer :
    let address : Text := "@customers:1:available:usd"
    accepts "customers::available:usd" address = true ∧
      (Address.bare address).count (.char ':') = 3 ∧ accepts "@::available:usd" address = true := by
  intro address
  obtain ⟨filled, counted, blanked⟩ := accepts_fillings "customers::available:usd" address
  have closed : ¬[.char ':'] <:+ Address.bare "customers::available:usd" := by decide +kernel
  have hole : [.char ':', .char ':'] <:+: Address.bare "customers::available:usd" := by
    decide +kernel
  have accepted : accepts "customers::available:usd" address = true := by
    rw [filled, if_neg closed, if_pos hole]
    exact ⟨["customers", "", "available", "usd"], ["customers", "1", "available", "usd"],
      by decide +kernel, by decide +kernel, by decide +kernel, by simp, by decide +kernel,
      by decide +kernel⟩
  refine ⟨accepted, ?_, ?_⟩
  · rw [counted closed hole accepted]
    decide +kernel
  · refine blanked "@::available:usd" (Or.inr ?_) closed (by decide +kernel) (by decide +kernel)
      accepted
    exact ⟨["customers", "", "available", "usd"], ["", "", "available", "usd"],
      by decide +kernel, by decide +kernel, by decide +kernel, by simp, by decide +kernel,
      by decide +kernel⟩

end Pattern

end DoubleEntry
