import DoubleEntry.Proofs.Script.Payment
import DoubleEntry.Script.Preview

/-!
# Where no send begins

A preview looks for sends at every place, also within words. In a payment it finds the
beginning of one only at its own first letter.
-/

namespace DoubleEntry

open Text (IsGap IsRow Parted)

namespace Preview

/-- Whether a word in front can neither go on to be the word of a send nor be followed by a
literal. -/
structure IsCalm (after : Text) : Prop where
  ends : Reader.Ends (· ∈ ("end" : Text)) after
  unopened : (after.dropWhile isBlank).head? ≠ some (.char '[')

theorem isCalm_cons {c : CodePoint} (solid : isBlank c = false) (other : c ∉ ("end[" : Text))
    (after : Text) : IsCalm (c :: after) := by
  refine ⟨Reader.ends_cons (decide_eq_false fun mem => other ?_) after, ?_⟩
  · exact List.mem_append_left ("[" : Text) mem
  · rw [List.dropWhile_cons_of_neg (by simp [solid]), List.head?_cons]
    exact fun same => other (Option.some.inj same ▸ by decide)

theorem ends_of_isBlank {row after : Text} (blank : IsRow row) (some_ : row ≠ []) :
    Reader.Ends (· ∈ ("end" : Text)) (row ++ after) := by
  obtain ⟨c, rest, rfl⟩ := List.exists_cons_of_ne_nil some_
  have solid : ∀ c ∈ ("end" : Text), isBlank c = false := by decide
  refine Reader.ends_cons (decide_eq_false fun mem => ?_) _
  have here := blank c List.mem_cons_self
  rw [solid c mem] at here
  cases here

theorem IsCalm.row {row after : Text} (calm : IsCalm after) (blank : IsRow row) :
    IsCalm (row ++ after) := by
  refine ⟨?_, ?_⟩
  · by_cases none : row = []
    · rw [none]
      exact calm.ends
    · exact ends_of_isBlank blank none
  · rw [List.dropWhile_append_of_pos blank]
    exact calm.unopened

/-- Behind a gap anything may come but a literal. -/
theorem isCalm_gap {gap : Text} (apart : IsGap gap) {c : CodePoint} (solid : isBlank c = false)
    (other : c ≠ .char '[') (after : Text) : IsCalm (gap ++ c :: after) := by
  refine ⟨ends_of_isBlank apart.blank apart.nonempty, ?_⟩
  rw [List.dropWhile_append_of_pos apart.blank, List.dropWhile_cons_of_neg (by simp [solid])]
  exact fun same => other (Option.some.inj same)

/-! ## Heads of sends -/

theorem sendHead_letter (t : Text) (other : t.head? ≠ some (.char 's')) : sendHead t = none :=
  Reader.bind_none (Reader.word_none other _) _

theorem sendHead_eq_some {t rest literal : Text} (h : sendHead t = some (literal, rest)) :
    ∃ gap after, t = ("send" : Text) ++ (gap ++ (.char '[' :: after)) ∧ IsGap gap := by
  obtain ⟨⟨⟩, behind, word, later⟩ := Reader.bind_eq_some.mp h
  obtain ⟨⟨⟩, begun, apart, bracketed⟩ := Reader.bind_eq_some.mp later
  obtain ⟨c, inside, opened, -⟩ := Reader.bind_eq_some.mp bracketed
  obtain ⟨gap, rfl, isGap⟩ := Text.gap_eq_some apart
  obtain ⟨rfl, isBracket⟩ := Reader.char_eq_some opened
  obtain rfl := of_decide_eq_true isBracket
  exact ⟨gap, inside, Reader.word_eq_some word, isGap⟩

/-- In a word no send begins that goes on behind the word. -/
theorem sendHead_none {u after : Text} (some_ : u ≠ []) (solid : ∀ c ∈ u, isBlank c = false)
    (calm : IsCalm after) : sendHead (u ++ after) = none := by
  cases read : sendHead (u ++ after) with
  | none => rfl
  | some result =>
      obtain ⟨gap, rest, split, apart⟩ := sendHead_eq_some read
      have unlike {more : Text} (whole : after = gap ++ more) : more.head? ≠ some (.char '[') := by
        rintro first
        obtain ⟨later, rfl⟩ := List.head?_eq_some_iff.mp first
        have opened := calm.unopened
        rw [whole, List.dropWhile_append_of_pos apart.blank] at opened
        exact opened rfl
      rcases List.append_eq_append_iff.mp split with ⟨more, word, behind⟩ | ⟨more, word, behind⟩
      · cases more with
        | nil => exact absurd rfl (unlike behind)
        | cons c more =>
            -- The word of a send would go on behind the word in front.
            have first : c ∈ ("end" : Text) := by
              obtain ⟨d, u, rfl⟩ := List.exists_cons_of_ne_nil some_
              have rest : ("end" : Text) = u ++ c :: more := (List.cons.inj word).2
              rw [rest]
              exact List.mem_append_right _ List.mem_cons_self
            have last := calm.ends c (by rw [behind]; rfl)
            exact absurd first (of_decide_eq_false last)
      · cases more with
        | nil => exact absurd rfl (unlike behind.symm)
        | cons c more =>
            obtain ⟨d, row, rfl⟩ := List.exists_cons_of_ne_nil apart.nonempty
            obtain ⟨rfl, -⟩ := List.cons.inj behind
            have blank := apart.blank d List.mem_cons_self
            rw [solid d (word ▸ List.mem_append_right _ List.mem_cons_self)] at blank
            cases blank

/-! ## Silent texts -/

/-- Whether no send begins in a text. -/
def IsSilent (t after : Text) : Prop :=
  ∀ before, Search.beginsIn Search.anywhere sendHead before t after = false

/-- What begins with a send does not begin in a silent text either. -/
theorem IsSilent.passes {α : Type} {r : Reader α} (needs : ∀ t, sendHead t = none → r t = none)
    {t after : Text} (silent : IsSilent t after) (before : Option CodePoint) :
    Search.beginsIn Search.anywhere r before t after = false := by
  have passed := silent before
  clear silent
  induction t generalizing before with
  | nil => rfl
  | cons c rest ih =>
      rw [Search.beginsIn, Bool.or_eq_false_iff] at passed ⊢
      obtain ⟨here, later⟩ := passed
      refine ⟨?_, ih _ later⟩
      change (sendHead (c :: rest ++ after)).isSome = false at here
      change (r (c :: rest ++ after)).isSome = false
      rw [needs _ (Option.not_isSome_iff_eq_none.mp (Bool.eq_false_iff.mp here))]
      rfl

theorem IsSilent.append {front back after : Text} (first : IsSilent front (back ++ after))
    (second : IsSilent back after) : IsSilent (front ++ back) after := by
  intro before
  rw [Search.beginsIn_append, first, second]
  rfl

theorem isSilent_of_notMem {t : Text} (free : (.char 's' : CodePoint) ∉ t) (after : Text) :
    IsSilent t after :=
  fun before => Search.beginsIn_of_notMem sendHead_letter free before after

theorem isSilent_row {row : Text} (blank : IsRow row) (after : Text) : IsSilent row after :=
  isSilent_of_notMem (Text.IsRow.free blank (by decide)) after

theorem isSilent_word {w after : Text} (solid : ∀ c ∈ w, isBlank c = false)
    (calm : IsCalm after) : IsSilent w after := by
  intro before
  induction w generalizing before with
  | nil => rfl
  | cons c rest ih =>
      rw [Search.beginsIn, sendHead_none (List.cons_ne_nil c rest) solid calm,
        ih (List.forall_mem_cons.mp solid).2]
      rfl

theorem isSilent_enclosed {opening closing : CodePoint} {inner after : Text}
    (plain : opening ≠ .char 's') (other : closing ≠ .char 's')
    (silent : IsSilent inner (closing :: after)) :
    IsSilent (Text.enclosed opening closing inner) after := by
  have single {c : CodePoint} (plain : c ≠ .char 's') (after : Text) : IsSilent [c] after :=
    isSilent_of_notMem (fun mem => plain (List.mem_singleton.mp mem).symm) after
  have split : Text.enclosed opening closing inner = [opening] ++ (inner ++ [closing]) := by
    simp [Text.enclosed]
  rw [split]
  exact (single plain _).append (IsSilent.append silent (single other after))

/-! ## Silent parts of payments -/

theorem isSilent_literal {literal : Text} (h : Monetary.IsLiteral literal) (after : Text) :
    IsSilent (Text.enclosed '[' ']' literal) after := by
  obtain ⟨named, chars, apart, amount⟩ := h
  rename_i asset gap quantity
  have solid : ∀ c ∈ .char '[' :: asset, isBlank c = false :=
    List.forall_mem_cons.mpr ⟨by decide, fun c mem => Monetary.isBlank_of_isAssetChar (chars c mem)⟩
  have free : (.char 's' : CodePoint) ∉ quantity ++ [.char ']'] := by
    rw [List.mem_append, not_or]
    exact ⟨amount.free (by decide +kernel) (by decide), by decide⟩
  have calm : IsCalm ((gap ++ (quantity ++ [.char ']'])) ++ after) := by
    have unopened : (.char '[' : CodePoint) ∉ quantity := amount.free (by decide +kernel) (by decide)
    have token := amount.isToken
    obtain ⟨c, rest, rfl⟩ := List.exists_cons_of_ne_nil token.nonempty
    simp only [List.append_assoc, List.cons_append]
    exact isCalm_gap apart (token.solid c List.mem_cons_self)
      (fun same => unopened (same ▸ List.mem_cons_self)) _
  have split : Text.enclosed '[' ']' (asset ++ (gap ++ quantity)) =
      (.char '[' :: asset) ++ (gap ++ (quantity ++ [.char ']'])) := by simp [Text.enclosed]
  rw [split]
  exact (isSilent_word solid calm).append
    ((isSilent_row apart.blank _).append (isSilent_of_notMem free after))

theorem isSilent_portion {portion : Text} (h : Script.IsPortion portion) (after : Text) :
    IsSilent portion after :=
  isSilent_of_notMem (h.free (by decide +kernel) (by decide)) after

theorem isSilent_address {address after : Text} (spelled : Script.IsAddress address)
    (calm : IsCalm after) : IsSilent address after :=
  isSilent_word spelled.inner.isToken.solid calm

theorem isSilent_receiver {receiver : Receiver} {after : Text} (named : Entry.IsNamed receiver)
    (calm : ∀ address, receiver = .account address → IsCalm after) :
    IsSilent (Destination.receiverToken receiver) after := by
  cases receiver with
  | account address => exact isSilent_address (named address rfl) (calm address rfl)
  | kept =>
      have free : (.char 's' : CodePoint) ∉ Destination.keptWord := by decide
      exact isSilent_of_notMem free after

theorem isSilent_entry {entry : Entry} {w after : Text} (spelled : entry.Spelled w)
    (calm : ∀ address, entry.receiver = .account address → IsCalm after) : IsSilent w after := by
  have bridge : (.char 's' : CodePoint) ∉ ("to" : Text) := by decide
  cases spelled with
  | whole named => exact isSilent_receiver named calm
  | share portion apart named =>
      exact (isSilent_portion portion _).append
        ((isSilent_row apart.blank _).append (isSilent_receiver named calm))
  | shareTo portion apart final named =>
      exact (isSilent_portion portion _).append ((isSilent_row apart.blank _).append
        ((isSilent_of_notMem bridge _).append
          ((isSilent_row final.blank _).append (isSilent_receiver named calm))))

/-- Where no literal is begun none comes next. -/
theorem unopened_of_free {w : Text} (free : (.char '[' : CodePoint) ∉ w) {c : CodePoint}
    (solid : isBlank c = false) (other : c ≠ .char '[') (after : Text) :
    ((w ++ c :: after).dropWhile isBlank).head? ≠ some (.char '[') := by
  induction w with
  | nil =>
      rw [List.nil_append, List.dropWhile_cons_of_neg (by simp [solid])]
      exact fun same => other (Option.some.inj same)
  | cons d rest ih =>
      obtain ⟨here, later⟩ := not_or.mp (mt List.mem_cons.mpr free)
      cases blank : isBlank d with
      | true =>
          rw [List.cons_append, List.dropWhile_cons_of_pos blank]
          exact ih later
      | false =>
          rw [List.cons_append, List.dropWhile_cons_of_neg (by simp [blank])]
          exact fun same => here (Option.some.inj same).symm

theorem isSilent_listed {entries : List Entry} {inner : Text} (listed : Entry.Listed entries inner)
    (after : Text) : IsSilent inner (.char '}' :: after) := by
  have letters : ∀ c ∈ ("end" : Text), Script.isAddressChar c = true := by decide +kernel
  induction listed with
  | nil blank => exact isSilent_row blank _
  | @cons entry rest row w later blank spelled ends others ih =>
      refine (isSilent_row blank _).append (IsSilent.append (isSilent_entry spelled ?_) ih)
      intro address named
      refine ⟨?_, unopened_of_free (others.free _ (by decide)) (by decide) (by decide) after⟩
      by_cases last : later = []
      · rw [last]
        exact Reader.ends_cons (by decide) after
      · exact ((ends address named).mono fun c mem => letters c (of_decide_eq_true mem)).append last _

theorem isSilent_target {target : Target} {t after : Text} (spelled : target.Spelled t)
    (calm : IsCalm after) : IsSilent t after := by
  cases spelled with
  | account address => exact isSilent_address address calm
  | block listed => exact isSilent_enclosed (by decide) (by decide) (isSilent_listed listed after)

theorem isSilent_nil (after : Text) : IsSilent [] after := fun _ => rfl

theorem isSilent_grantWords {w : Text}
    (listed : w ∈ ([Source.grantWord, "unbounded", "overdraft", "up", "to"] : List Text))
    (after : Text) : IsSilent w after := by
  have words : ∀ w ∈ ([Source.grantWord, "unbounded", "overdraft", "up", "to"] : List Text),
      (.char 's' : CodePoint) ∉ w := by decide
  exact isSilent_of_notMem (words w listed) after

theorem isSilent_bound {bound : Text} (h : Source.IsBound bound) (after : Text) :
    IsSilent bound after := by
  cases h with
  | none => exact isSilent_nil after
  | unbounded apart =>
      exact (isSilent_grantWords (by decide) _).append (isSilent_row apart.blank after)

theorem isSilent_limit {limit : Text} (h : Source.IsLimit limit) (after : Text) :
    IsSilent limit after := by
  cases h with
  | none => exact isSilent_nil after
  | upTo first second third literal free =>
      exact (isSilent_row first.blank _).append ((isSilent_grantWords (by decide) _).append
        ((isSilent_row second.blank _).append ((isSilent_grantWords (by decide) _).append
          ((isSilent_row third.blank _).append (isSilent_literal literal after)))))

theorem isSilent_grant {grant : Text} (h : Source.IsGrant grant) (after : Text) :
    IsSilent grant after := by
  cases h with
  | none => exact isSilent_nil after
  | granted head tail bounded limited =>
      exact (isSilent_row head.blank _).append ((isSilent_grantWords (by decide) _).append
        ((isSilent_row tail.blank _).append ((isSilent_bound bounded _).append
          ((isSilent_grantWords (by decide) _).append (isSilent_limit limited after)))))

/-- Behind the source of a payment comes a gap, and then a grant or the destination. -/
theorem isCalm_behindSource {layout : Layout} {payment : Payment} (fits : layout.Fits payment)
    (after : Text) : IsCalm (layout.grant ++ (layout.beforeDestination ++
      (("destination" : Text) ++ after))) := by
  have granted := fits.grant
  generalize layout.grant = grant at granted
  cases granted with
  | none => exact isCalm_gap fits.beforeDestination (by decide) (by decide) _
  | granted head tail bounded limited =>
      rw [List.append_assoc, List.append_assoc]
      exact isCalm_gap head (by decide) (by decide) _

theorem isSilent_body {layout : Layout} {payment : Payment} (fits : layout.Fits payment)
    (after : Text) : IsSilent (layout.body payment) (.char ')' :: after) := by
  have word {w : Text} (token : Text.IsToken w) {row after : Text} (blank : IsRow row)
      {c : CodePoint} (solid : isBlank c = false) (other : c ∉ ("end[" : Text)) :
      IsSilent w (row ++ c :: after) :=
    isSilent_word token.solid ((isCalm_cons solid other after).row blank)
  have sign (after : Text) : IsSilent ("=" : Text) after := isSilent_of_notMem (by decide) after
  unfold Layout.body
  refine (isSilent_row fits.beforeSource _).append (IsSilent.append ?_
    ((isSilent_row fits.beforeSourceSign _).append ((sign _).append
      ((isSilent_row fits.behindSourceSign _).append (IsSilent.append ?_
        ((isSilent_grant fits.grant _).append ((isSilent_row fits.beforeDestination.blank _).append
          (IsSilent.append ?_ ((isSilent_row fits.beforeDestinationSign _).append
            ((sign _).append ((isSilent_row fits.behindDestinationSign _).append
              (IsSilent.append ?_ (isSilent_row fits.atEnd _)))))))))))))
  · rw [List.append_assoc]
    exact word ⟨by decide, by decide⟩ fits.beforeSourceSign (by decide) (by decide)
  · simp only [List.append_assoc]
    exact isSilent_address fits.source (isCalm_behindSource fits _)
  · rw [List.append_assoc]
    exact word ⟨by decide, by decide⟩ fits.beforeDestinationSign (by decide) (by decide)
  · exact isSilent_target fits.target ((isCalm_cons (by decide) (by decide) after).row fits.atEnd)

/-- In a payment no send begins behind its first letter. -/
theorem exists_isSilent {layout : Layout} {payment : Payment} (fits : layout.Fits payment)
    (after : Text) : ∃ tail, layout.text payment = .char 's' :: tail ∧ IsSilent tail after := by
  refine ⟨_, rfl, ?_⟩
  have rest (after : Text) : IsSilent ("end" : Text) after := isSilent_of_notMem (by decide) after
  exact (rest _).append ((isSilent_row fits.behindSend.blank _).append
    ((isSilent_literal fits.literal _).append ((isSilent_row fits.behindLiteral _).append
      (isSilent_enclosed (by decide) (by decide) (isSilent_body fits after)))))

end Preview

end DoubleEntry
