import DoubleEntry.Proofs.Script.Silence

/-!
# Recognising payments

Behind the source of a send, or behind a grant, a preview looks for a destination clause
anywhere in front of the closing parenthesis. A payment holds two equals signs there, each
right behind the name of its clause, so that no other clause can be found.
-/

namespace DoubleEntry

open Text (IsGap IsRow IsToken)

/-! ## Where a sign stands -/

namespace Text

/-- A sign is the first one or stands behind it. -/
theorem append_cons_cases {c : CodePoint} {a b u v : Text} (free : c ∉ a)
    (h : a ++ c :: b = u ++ c :: v) : (u = a ∧ v = b) ∨ ∃ w, u = a ++ c :: w ∧ b = w ++ c :: v := by
  rcases List.append_eq_append_iff.mp h with ⟨more, rfl, behind⟩ | ⟨more, rfl, behind⟩
  · cases more with
    | nil =>
        obtain ⟨-, rfl⟩ := List.cons.inj behind
        exact Or.inl ⟨List.append_nil a, rfl⟩
    | cons d w =>
        obtain ⟨rfl, rfl⟩ := List.cons.inj behind
        exact Or.inr ⟨w, rfl, rfl⟩
  · cases more with
    | nil =>
        obtain ⟨-, rfl⟩ := List.cons.inj behind
        exact Or.inl ⟨(List.append_nil u).symm, rfl⟩
    | cons d w =>
        obtain ⟨rfl, -⟩ := List.cons.inj behind
        exact absurd (List.mem_append_right _ List.mem_cons_self) free

/-- A sign that does not stand in front of another one stands behind it. -/
theorem append_cons_ne {c stop : CodePoint} (different : c ≠ stop) {a b u v : Text} (free : c ∉ a)
    (before : stop ∉ u) : a ++ stop :: b ≠ u ++ c :: v := by
  intro h
  rcases List.append_eq_append_iff.mp h with ⟨more, rfl, behind⟩ | ⟨more, rfl, behind⟩
  · cases more with
    | nil => exact different (List.cons.inj behind).1.symm
    | cons d w =>
        obtain ⟨rfl, -⟩ := List.cons.inj behind
        exact before (List.mem_append_right _ List.mem_cons_self)
  · cases more with
    | nil => exact different (List.cons.inj behind).1
    | cons d w =>
        obtain ⟨rfl, -⟩ := List.cons.inj behind
        exact free (List.mem_append_right _ List.mem_cons_self)

/-- The last character of a text other than blanks. -/
def last? (t : Text) : Option CodePoint := t.reverse.find? fun c => !isBlank c

theorem last?_append {name row : Text} (token : IsToken name) (blank : IsRow row) (front : Text) :
    last? (front ++ (name ++ row)) = name.getLast? := by
  have passed : row.reverse.find? (fun c => !isBlank c) = none := by
    refine List.find?_eq_none.mpr fun c mem => ?_
    simp [blank c (List.mem_reverse.mp mem)]
  obtain ⟨c, rest, mirrored⟩ :=
    List.exists_cons_of_ne_nil (mt List.reverse_eq_nil_iff.mp token.nonempty)
  have solid : isBlank c = false :=
    token.solid c (List.mem_reverse.mp (mirrored ▸ List.mem_cons_self))
  rw [last?, List.reverse_append, List.reverse_append, List.append_assoc, List.find?_append, passed,
    mirrored, List.getLast?_eq_head?_reverse, mirrored]
  simp [solid]

end Text

/-! ## The signs of a payment -/

namespace Layout

/-- What stands between the literal and the first equals sign. -/
def opening (layout : Layout) : Text :=
  layout.behindLiteral ++ (.char '(' :: (layout.beforeSource ++ (("source" : Text) ++
    layout.beforeSourceSign)))

/-- What stands between the equals signs. -/
def middle (layout : Layout) (payment : Payment) : Text :=
  layout.behindSourceSign ++ (payment.source ++ (layout.grant ++ (layout.beforeDestination ++
    (("destination" : Text) ++ layout.beforeDestinationSign))))

/-- What stands between the second equals sign and the closing parenthesis. -/
def ending (layout : Layout) : Text :=
  layout.behindDestinationSign ++ (layout.target ++ layout.atEnd)

/-- What stands behind the literal of a payment, and anything behind the payment. -/
def signed (layout : Layout) (payment : Payment) (after : Text) : Text :=
  layout.opening ++ .char '=' :: (layout.middle payment ++ .char '=' ::
    (layout.ending ++ .char ')' :: after))

variable {layout : Layout} {payment : Payment} (fits : layout.Fits payment)

theorem text_append (layout : Layout) (payment : Payment) (after : Text) :
    layout.text payment ++ after = ("send" : Text) ++ (layout.behindSend ++
      (Text.enclosed '[' ']' payment.literal ++ layout.signed payment after)) := by
  simp [text, signed, opening, middle, ending, body, Text.enclosed]

section Free

variable {c : CodePoint} (sign : c ∈ (")=" : Text))
include fits sign

theorem Fits.opening_free : c ∉ layout.opening := by
  have solid : ∀ c ∈ (")=" : Text), isBlank c = false := by decide
  have words : ∀ c ∈ (")=" : Text), c ≠ .char '(' ∧ c ∉ ("source" : Text) := by decide
  obtain ⟨paren, name⟩ := words c sign
  simp only [opening, List.mem_append, List.mem_cons, not_or]
  exact ⟨Text.IsRow.free fits.behindLiteral (solid c sign), paren,
    Text.IsRow.free fits.beforeSource (solid c sign), name,
    Text.IsRow.free fits.beforeSourceSign (solid c sign)⟩

theorem Fits.middle_free : c ∉ layout.middle payment := by
  have solid : ∀ c ∈ (")=" : Text), isBlank c = false := by decide
  have name : ∀ c ∈ (")=" : Text), c ∉ ("destination" : Text) := by decide
  simp only [middle, List.mem_append, not_or]
  exact ⟨Text.IsRow.free fits.behindSourceSign (solid c sign), fits.free_source c sign,
    fits.grant.free c sign, Text.IsRow.free fits.beforeDestination.blank (solid c sign),
    name c sign, Text.IsRow.free fits.beforeDestinationSign (solid c sign)⟩

theorem Fits.ending_free : c ∉ layout.ending := by
  have solid : ∀ c ∈ (")=" : Text), isBlank c = false := by decide
  simp only [ending, List.mem_append, not_or]
  exact ⟨Text.IsRow.free fits.behindDestinationSign (solid c sign), fits.target.free c sign,
    Text.IsRow.free fits.atEnd (solid c sign)⟩

end Free

section Signs

variable {u rest after : Text} (split : layout.signed payment after = u ++ .char '=' :: rest)
  (before : (.char ')' : CodePoint) ∉ u)
include fits split before

/-- In front of the closing parenthesis there are two equals signs. -/
theorem Fits.sign_cases :
    (u = layout.opening ∧
        rest = layout.middle payment ++ .char '=' :: (layout.ending ++ .char ')' :: after)) ∨
      (u = layout.opening ++ .char '=' :: layout.middle payment ∧
        rest = layout.ending ++ .char ')' :: after) := by
  rcases Text.append_cons_cases (fits.opening_free (by decide)) split with first | ⟨w, rfl, later⟩
  · exact Or.inl first
  · rcases Text.append_cons_cases (fits.middle_free (by decide)) later with second | ⟨w, rfl, last⟩
    · obtain ⟨rfl, rfl⟩ := second
      exact Or.inr ⟨rfl, rfl⟩
    · have inside : (.char ')' : CodePoint) ∉ w := fun mem => before (by simp [mem])
      exact absurd last (Text.append_cons_ne (by decide) (fits.ending_free (by decide)) inside)

variable {done name row : Text} (token : IsToken name) (blank : IsRow row)
  (named : u = done ++ (name ++ row))
include token blank named

/-- Behind a name that does not end like the first one the second sign stands. -/
theorem Fits.second_sign (other : name.getLast? ≠ some (.char 'e')) :
    rest = layout.ending ++ .char ')' :: after := by
  rcases fits.sign_cases split before with ⟨first, -⟩ | ⟨-, second⟩
  · have last := congrArg Text.last? (named.symm.trans first)
    have opening : layout.opening = (layout.behindLiteral ++ (.char '(' :: layout.beforeSource)) ++
        (("source" : Text) ++ layout.beforeSourceSign) := by simp [Layout.opening]
    rw [Text.last?_append token blank, opening,
      Text.last?_append ⟨by decide, by decide⟩ fits.beforeSourceSign] at last
    exact absurd last other
  · exact second

/-- Behind a name that does not end like the second one the first sign stands. -/
theorem Fits.first_sign (other : name.getLast? ≠ some (.char 'n')) :
    rest = layout.middle payment ++ .char '=' :: (layout.ending ++ .char ')' :: after) := by
  rcases fits.sign_cases split before with ⟨-, first⟩ | ⟨second, -⟩
  · exact first
  · have last := congrArg Text.last? (named.symm.trans second)
    have middle : layout.opening ++ .char '=' :: layout.middle payment =
        (layout.opening ++ .char '=' :: (layout.behindSourceSign ++ (payment.source ++
          (layout.grant ++ layout.beforeDestination)))) ++
            (("destination" : Text) ++ layout.beforeDestinationSign) := by simp [Layout.middle]
    rw [Text.last?_append token blank, middle,
      Text.last?_append ⟨by decide, by decide⟩ fits.beforeDestinationSign] at last
    exact absurd last other

end Signs

/-! ## Finding the target -/

/-- What stands behind the source of a payment, and anything behind the payment. -/
def behindSource (layout : Layout) (after : Text) : Text :=
  layout.grant ++ (layout.beforeDestination ++ (("destination" : Text) ++
    (layout.beforeDestinationSign ++ .char '=' :: (layout.ending ++ .char ')' :: after))))

/-- What stands from the target of a payment on, and anything behind the payment. -/
def atTarget (layout : Layout) (after : Text) : Text :=
  layout.target ++ (layout.atEnd ++ .char ')' :: after)

theorem signed_eq (layout : Layout) (payment : Payment) (after : Text) :
    layout.signed payment after = (layout.opening ++ .char '=' :: (layout.behindSourceSign ++
      payment.source)) ++ layout.behindSource after := by
  simp [signed, middle, behindSource]

section Target

variable {after : Text}
include fits

theorem Fits.target_solid : Reader.Ends isBlank (layout.atTarget after) := fits.target.solid _

theorem Fits.dropWhile_ending :
    (layout.ending ++ .char ')' :: after).dropWhile isBlank = layout.atTarget after := by
  have split : layout.ending ++ .char ')' :: after =
      layout.behindDestinationSign ++ layout.atTarget after := by simp [ending, atTarget]
  have solid : Reader.Ends isBlank (layout.atTarget after) := fits.target_solid
  rw [split, Text.dropWhile_append fits.behindDestinationSign solid]

/-- The head of a destination clause in front of the closing parenthesis is the one in front
of the target. -/
theorem Fits.left_of_destinationHead {done t left : Text}
    (split : layout.signed payment after = done ++ t) (before : (.char ')' : CodePoint) ∉ done)
    (h : Preview.destinationHead t = some ((), left)) : left = layout.atTarget after := by
  obtain ⟨⟨⟩, behind, apart, clause⟩ := Reader.bind_eq_some.mp h
  obtain ⟨gap, rfl, isGap⟩ := Text.gap_eq_some apart
  obtain ⟨row, rest, rfl, blank, rfl⟩ := Script.clauseHead_eq_some clause
  have whole : layout.signed payment after =
      ((done ++ gap) ++ (("destination" : Text) ++ row)) ++ .char '=' :: rest := by
    rw [split]
    simp only [List.append_assoc]
  have inside : (.char ')' : CodePoint) ∉ (done ++ gap) ++ (("destination" : Text) ++ row) := by
    simp only [List.mem_append, not_or]
    exact ⟨⟨before, Text.IsRow.free isGap.blank (by decide)⟩, by decide,
      Text.IsRow.free blank (by decide)⟩
  rw [fits.second_sign whole inside ⟨by decide, by decide⟩ blank rfl (by decide),
    fits.dropWhile_ending]

theorem Fits.destinationHead_read :
    Preview.destinationHead (layout.beforeDestination ++ (("destination" : Text) ++
      (layout.beforeDestinationSign ++ .char '=' :: (layout.ending ++ .char ')' :: after)))) =
        some ((), layout.atTarget after) := by
  have solid : Reader.Ends isBlank (layout.atTarget after) := fits.target_solid
  have head := @Script.clauseHead_read "destination" _ _ _ fits.beforeDestinationSign
    fits.behindDestinationSign solid
  have word : IsToken ("destination" : Text) := ⟨by decide, by decide⟩
  rw [Preview.destinationHead, Reader.bind_some (fits.beforeDestination.read (word.ends _)), ← head]
  simp [ending, atTarget]

variable {β : Type} {rest : Unit → Reader β}

theorem Fits.rest_of_afterGrant {result : β × Text}
    (h : Preview.afterGrant (Preview.destinationHead >>= rest) (layout.behindSource after) =
      some result) : rest () (layout.atTarget after) = some result := by
  have reached {done t : Text} {result : β × Text}
      (split : layout.behindSource after = done ++ t) (before : (.char ')' : CodePoint) ∉ done)
      (read : (Preview.destinationHead >>= rest) t = some result) :
      rest () (layout.atTarget after) = some result := by
    obtain ⟨⟨⟩, left, head, later⟩ := Reader.bind_eq_some.mp read
    have whole := layout.signed_eq payment after
    rw [split, ← List.append_assoc] at whole
    have free := fits.free_source (.char ')') (by decide)
    have row := Text.IsRow.free fits.behindSourceSign (c := .char ')') (by decide)
    have inside : (.char ')' : CodePoint) ∉ (layout.opening ++ .char '=' ::
        (layout.behindSourceSign ++ payment.source)) ++ done := by
      simp [fits.opening_free, free, row, before]
    rwa [fits.left_of_destinationHead whole inside head] at later
  rcases Reader.or_eq_some h with granted | direct
  · obtain ⟨⟨⟩, behind, apart, later⟩ := Reader.bind_eq_some.mp granted
    obtain ⟨⟨⟩, inside, word, further⟩ := Reader.bind_eq_some.mp later
    obtain ⟨⟨passed, value⟩, left, found, made⟩ := Reader.bind_eq_some.mp further
    obtain rfl := Option.some.inj made
    obtain ⟨gap, split, isGap⟩ := Text.gap_eq_some apart
    obtain ⟨last, rfl, -, all, read⟩ := Reader.upTo1_eq_some found
    rw [Reader.word_eq_some word, ← List.append_assoc, ← List.append_assoc] at split
    refine reached split ?_ read
    simp only [List.mem_append, not_or]
    refine ⟨⟨Text.IsRow.free isGap.blank (by decide), by decide⟩, fun mem => ?_⟩
    exact absurd (all _ mem) (by decide)
  · exact reached (List.nil_append _).symm List.not_mem_nil direct

theorem Fits.afterGrant_isSome (reads : (rest () (layout.atTarget after)).isSome = true) :
    (Preview.afterGrant (Preview.destinationHead >>= rest)
      (layout.behindSource after)).isSome = true := by
  have found : ((Preview.destinationHead >>= rest) (layout.beforeDestination ++
      (("destination" : Text) ++ (layout.beforeDestinationSign ++ .char '=' ::
        (layout.ending ++ .char ')' :: after))))).isSome = true := by
    rw [Reader.bind_some fits.destinationHead_read]
    exact reads
  have granted := fits.grant
  have free := fits.grant.free (.char ')') (by decide)
  unfold behindSource
  generalize layout.grant = grant at granted free
  cases granted with
  | none => exact Reader.or_isSome found
  | @granted first second bound limit head tail bounded limited =>
      have allowed : ∀ c ∈ second ++ (bound ++ (("overdraft" : Text) ++ limit)),
          decide (c ≠ .char ')') = true := by
        intro c mem
        refine decide_eq_true ?_
        rintro rfl
        exact free (List.mem_append_right _ (List.mem_append_right _ mem))
      obtain ⟨⟨⟨passed, value⟩, left⟩, taken⟩ := Option.isSome_iff_exists.mp
        (Reader.upTo1_isSome (List.append_ne_nil_of_left_ne_nil tail.nonempty _) allowed found)
      simp only [List.append_assoc] at taken ⊢
      have word : IsToken Source.grantWord := ⟨by decide, by decide⟩
      have begun : Reader.word "allowing" (Source.grantWord ++ (second ++ (bound ++
          (("overdraft" : Text) ++ (limit ++ (layout.beforeDestination ++ (("destination" : Text) ++
            (layout.beforeDestinationSign ++ .char '=' ::
              (layout.ending ++ .char ')' :: after))))))))) = some ((), _) :=
        Reader.word_append Source.grantWord _
      rw [Preview.afterGrant, Reader.or_some (Reader.bind_eq_some.mpr ⟨(), _,
        head.read (word.ends _), Reader.bind_eq_some.mpr ⟨(), _, begun,
          Reader.bind_eq_some.mpr ⟨(passed, value), left, taken, rfl⟩⟩⟩)]
      rfl

/-- With or without a grant, what follows the source is read from the target on. -/
theorem Fits.afterGrant_eq :
    Preview.afterGrant (Preview.destinationHead >>= rest) (layout.behindSource after) =
      rest () (layout.atTarget after) := by
  cases read : rest () (layout.atTarget after) with
  | none =>
      cases found : Preview.afterGrant (Preview.destinationHead >>= rest)
          (layout.behindSource after) with
      | none => rfl
      | some result =>
          rw [fits.rest_of_afterGrant found] at read
          cases read
  | some result =>
      have reads : (rest () (layout.atTarget after)).isSome = true := by
        rw [read]
        rfl
      obtain ⟨other, found⟩ := Option.isSome_iff_exists.mp (fits.afterGrant_isSome reads)
      rw [found, ← read, fits.rest_of_afterGrant found]

end Target

/-! ## Recognising sends -/

section Heads

variable {after : Text}
include fits

theorem Fits.sendHead_read :
    Preview.sendHead (layout.text payment ++ after) =
      some (payment.literal, layout.signed payment after) := by
  rw [text_append, Preview.sendHead, Reader.bind_some (Reader.word_append _ _),
    Reader.bind_some (fits.behindSend.read (Monetary.bracket_ends _ _))]
  exact Script.bracketed_read fits.literal.unclosed fits.literal.nonempty _

theorem Fits.parted_behindSource : Text.Parted (layout.behindSource after) :=
  fits.grant.parted (fits.beforeDestination.parted _)

theorem Fits.sourceHead_read :
    Preview.sourceHead (layout.text payment ++ after) =
      some ((payment.literal, payment.source), layout.behindSource after) := by
  have source : Script.address (payment.source ++ layout.behindSource after) =
      some (payment.source, layout.behindSource after) :=
    fits.source.address_read
      (fits.parted_behindSource.ends fun _ => Script.isAddressChar_of_isBlank)
  have clause := @Script.clauseHead_read "source" _ _ _ fits.beforeSourceSign fits.behindSourceSign
    (fits.source.inner.isToken.ends (layout.behindSource after))
  have name : IsToken ("source" : Text) := ⟨by decide, by decide⟩
  have split : layout.signed payment after = layout.behindLiteral ++ (.char '(' ::
      (layout.beforeSource ++ (("source" : Text) ++ (layout.beforeSourceSign ++ (("=" : Text) ++
        (layout.behindSourceSign ++ (payment.source ++ layout.behindSource after))))))) := by
    simp [signed_eq, opening]
  rw [Preview.sourceHead, Reader.bind_some fits.sendHead_read, split,
    Reader.bind_some (Text.blanks_append fits.behindLiteral (Reader.ends_cons (by decide) _)),
    Reader.bind_some (Reader.char_some (by decide) _),
    Reader.bind_some (Text.blanks_append fits.beforeSource (name.ends _)), Reader.bind_some clause,
    Reader.bind_some source]
  rfl

theorem Fits.sendEnd_read :
    Preview.sendEnd (layout.atEnd ++ .char ')' :: after) = some ((), after) := by
  rw [Preview.sendEnd,
    Reader.bind_some (Text.blanks_append fits.atEnd (Reader.ends_cons (by decide) _)),
    Reader.bind_some (Reader.char_some (by decide) _)]
  rfl

/-- What is recognised behind the source and its grant is read from the target on. -/
theorem Fits.send_eq {β γ : Type} {rest : Unit → Reader β} {made : Text × Text → β → γ} :
    (do
      let head ← Preview.sourceHead
      let found ← Preview.afterGrant (Preview.destinationHead >>= rest)
      return made head found : Reader γ) (layout.text payment ++ after) =
        (made (payment.literal, payment.source) <$> rest ()) (layout.atTarget after) := by
  rw [Reader.bind_some fits.sourceHead_read]
  cases read : rest () (layout.atTarget after) with
  | none => rw [Reader.bind_none (fits.afterGrant_eq.trans read), Reader.map_none read]
  | some result =>
      obtain ⟨value, left⟩ := result
      rw [Reader.bind_some (fits.afterGrant_eq.trans read), Reader.map_some read]
      rfl

end Heads

/-- How a payment is recognised: from an account to an account, or to a block of destinations,
or not at all if nothing stands in its block. -/
inductive Recognized (layout : Layout) (payment : Payment) (after : Text) : Prop
  | account {address : Text} (target : payment.target = .account address)
      (simple : Preview.simpleSend (layout.text payment ++ after) =
        some ((payment.literal, payment.source, address), after))
      (split : Preview.splitSend (layout.text payment ++ after) = none)
  | block {entries : List Entry} {inner : Text} (target : payment.target = .block entries)
      (listed : Entry.Listed entries inner)
      (simple : Preview.simpleSend (layout.text payment ++ after) = none)
      (split : Preview.splitSend (layout.text payment ++ after) =
        some ((payment.literal, payment.source, inner), after))
  | empty (target : payment.target = .block [])
      (simple : Preview.simpleSend (layout.text payment ++ after) = none)
      (split : Preview.splitSend (layout.text payment ++ after) = none)

section Recognized

variable {after : Text}
include fits

theorem Fits.simpleSend_eq :
    Preview.simpleSend (layout.text payment ++ after) =
      ((fun destination => (payment.literal, payment.source, destination)) <$> (do
        let destination ← Script.address
        Preview.sendEnd
        return destination : Reader Text)) (layout.atTarget after) :=
  @Fits.send_eq layout payment fits after _ _ (fun _ => do
    let destination ← Script.address
    Preview.sendEnd
    return destination) fun head destination => (head.1, head.2, destination)

theorem Fits.splitSend_eq :
    Preview.splitSend (layout.text payment ++ after) =
      ((fun block => (payment.literal, payment.source, block)) <$> (do
        let block ← Reader.enclosed1 '{' '}'
        Preview.sendEnd
        return block : Reader Text)) (layout.atTarget after) :=
  @Fits.send_eq layout payment fits after _ _ (fun _ => do
    let block ← Reader.enclosed1 '{' '}'
    Preview.sendEnd
    return block) fun head block => (head.1, head.2, block)

theorem Fits.ends_target :
    Reader.Ends Script.isAddressChar (layout.atEnd ++ .char ')' :: after) := by
  have blank := fits.atEnd
  generalize layout.atEnd = row at blank ⊢
  cases row with
  | nil => exact Reader.ends_cons (by decide +kernel) after
  | cons c rest =>
      exact Reader.ends_cons (Script.isAddressChar_of_isBlank (blank c List.mem_cons_self)) _

theorem Fits.recognized (after : Text) : layout.Recognized payment after := by
  have unlike {c d : CodePoint} (other : c ≠ d) (t : Text) :
      Reader.char (· = d) (c :: t) = none :=
    Reader.char_none (Reader.ends_cons (decide_eq_false other) t)
  have target := fits.target
  have ends : Reader.Ends Script.isAddressChar (layout.atEnd ++ .char ')' :: after) :=
    fits.ends_target
  generalize written : layout.target = w at target
  generalize named : payment.target = goal at target
  have rest : layout.atTarget after = w ++ (layout.atEnd ++ .char ')' :: after) := by
    rw [← written, atTarget]
  cases target with
  | @account address spelled =>
      refine Recognized.account named ?_ ?_
      · rw [fits.simpleSend_eq, rest]
        refine Reader.map_some ?_ _
        rw [Reader.bind_some (spelled.address_read ends), Reader.bind_some fits.sendEnd_read]
        rfl
      · rw [fits.splitSend_eq, rest]
        obtain ⟨name, chars⟩ := spelled
        exact Reader.map_none (Reader.bind_none (Reader.bind_none (unlike (by decide) _) _) _) _
  | @block entries inner listed =>
      have simple : Preview.simpleSend (layout.text payment ++ after) = none := by
        rw [fits.simpleSend_eq, rest]
        exact Reader.map_none (Reader.bind_none (Reader.bind_none (unlike (by decide) _) _) _) _
      by_cases none : inner = []
      · subst none
        obtain rfl := listed.eq_nil
        refine Recognized.empty named simple ?_
        rw [fits.splitSend_eq, rest]
        exact Reader.map_none (Reader.bind_none (Reader.enclosed1_nil _ _ _) _) _
      · refine Recognized.block named listed simple ?_
        rw [fits.splitSend_eq, rest]
        refine Reader.map_some ?_ _
        rw [Reader.bind_some (Reader.enclosed1_append (listed.free _ (by decide)) none _),
          Reader.bind_some fits.sendEnd_read]
        rfl

end Recognized

end Layout

/-! ## The fallback -/

namespace Preview

theorem looseHead_eq_some {name t left : Text} (h : looseHead name t = some ((), left)) :
    ∃ row rest, t = name ++ (row ++ .char '=' :: rest) ∧ IsRow row ∧
      left = rest.dropWhile isBlockLead := by
  obtain ⟨row, rest, split, blank, last⟩ := Script.sign_eq_some h
  have taken : Reader.many isBlockLead rest =
      some (rest.takeWhile isBlockLead, rest.dropWhile isBlockLead) := rfl
  rw [Reader.bind_some taken] at last
  exact ⟨row, rest, split, blank, (Prod.mk.inj (Option.some.inj last)).2.symm⟩

/-- A share in front of a destination does not go on behind a send. -/
theorem looseShare_takes : looseShare.Takes (· ≠ .char ')') := by
  have gap : Reader.gap.Takes (· ≠ .char ')') :=
    Reader.takes_gap fun c blank => ne_of_isBlank blank (by decide)
  have number : (Reader.many1 fun c =>
      isDecimalDigit c || c = '.' || c = '/' || c = '%').Takes (· ≠ .char ')') := by
    refine Reader.takes_many1 fun c digit => ?_
    rintro rfl
    exact absurd digit (by decide +kernel)
  have bridge : (do Reader.word "to"; Reader.gap : Reader Unit).Takes (· ≠ .char ')') :=
    (Reader.takes_word (by decide)).bind fun _ => gap
  exact ((number.bind fun _ => Reader.takes_pure ()).or (Reader.takes_word (by decide))).bind
    fun _ => gap.bind fun _ => bridge.optional.bind fun _ => Reader.takes_pure ()

theorem longestBefore_eq_some {α : Type} {r : Reader α} {count : Nat} {t rest : Text}
    {found : Text × α} (h : Reader.longestBefore r count t = some (found, rest)) :
    ∃ n ≤ count, r (t.drop n) = some (found.2, rest) := by
  induction count with
  | zero => cases h
  | succ count ih =>
      rw [Reader.longestBefore] at h
      dsimp only at h
      cases read : r (t.drop (count + 1)) with
      | none =>
          rw [read] at h
          obtain ⟨n, within, shorter⟩ := ih h
          exact ⟨n, Nat.le_succ_of_le within, shorter⟩
      | some result =>
          rw [read] at h
          obtain ⟨rfl, rfl⟩ := Prod.mk.inj (Option.some.inj h)
          exact ⟨count + 1, Nat.le_refl _, read⟩

end Preview

namespace Layout

section Loose

variable {layout : Layout} {payment : Payment} (fits : layout.Fits payment) {after : Text}
  (unnamed : (.char '@' : CodePoint) ∉ layout.target)
include fits unnamed

theorem Fits.looseDestination_none {done t : Text}
    (split : layout.signed payment after = done ++ t) (before : (.char ')' : CodePoint) ∉ done) :
    Preview.looseDestination t = none := by
  cases read : Preview.looseDestination t with
  | none => rfl
  | some result =>
      obtain ⟨⟨passed, destination⟩, rest, found, -⟩ := Reader.bind_eq_some.mp read
      obtain ⟨inside, rfl, all, clause⟩ := Reader.upTo_eq_some found
      obtain ⟨⟨⟩, left, head, later⟩ := Reader.bind_eq_some.mp clause
      obtain ⟨row, right, rfl, blank, rfl⟩ := Preview.looseHead_eq_some head
      have whole : layout.signed payment after =
          ((done ++ passed) ++ (("destination" : Text) ++ row)) ++ .char '=' :: right := by
        rw [split]
        simp only [List.append_assoc]
      have free : (.char ')' : CodePoint) ∉ (done ++ passed) ++ (("destination" : Text) ++ row) := by
        simp only [List.mem_append, not_or]
        exact ⟨⟨before, fun mem => absurd (all _ mem) (by decide)⟩, by decide,
          Text.IsRow.free blank (by decide)⟩
      have place := fits.second_sign whole free ⟨by decide, by decide⟩ blank rfl (by decide)
      -- An account would stand between the sign and the closing parenthesis.
      obtain ⟨share, behind, optional, address⟩ := Reader.bind_eq_some.mp later
      obtain ⟨w, taken, others⟩ := Preview.looseShare_takes.optional _ _ _ optional
      obtain ⟨sigil, name, begun, -⟩ := Reader.bind_eq_some.mp address
      obtain ⟨rfl, isSigil⟩ := Reader.char_eq_some begun
      obtain rfl := of_decide_eq_true isSigil
      have unsigned : (.char '@' : CodePoint) ∉ layout.ending := by
        simp only [ending, List.mem_append, not_or]
        exact ⟨Text.IsRow.free fits.behindDestinationSign (by decide), unnamed,
          Text.IsRow.free fits.atEnd (by decide)⟩
      have closed : (.char ')' : CodePoint) ∉ right.takeWhile Preview.isBlockLead ++ w := by
        refine List.mem_append.not.mpr (not_or.mpr ⟨fun mem => ?_, fun mem => others _ mem rfl⟩)
        exact absurd (List.all_eq_true.mp List.all_takeWhile _ mem) (by decide)
      have found : right = (right.takeWhile Preview.isBlockLead ++ w) ++ .char '@' :: name := by
        rw [List.append_assoc, ← taken, List.takeWhile_append_dropWhile]
      exact absurd (place.symm.trans found) (Text.append_cons_ne (by decide) unsigned closed)

omit unnamed in
/-- Behind the first sign, and what leads into a block, the source stands. -/
theorem Fits.head?_source : ((layout.middle payment ++ .char '=' ::
    (layout.ending ++ .char ')' :: after)).dropWhile Preview.isBlockLead).head? =
      some (.char '@') := by
  have lead : ∀ c ∈ layout.behindSourceSign, Preview.isBlockLead c = true :=
    fun c mem => by simp [Preview.isBlockLead, fits.behindSourceSign c mem]
  obtain ⟨name, spelled⟩ := List.head?_eq_some_iff.mp (fits.source.head? [])
  rw [List.append_nil] at spelled
  rw [middle, List.append_assoc, List.dropWhile_append_of_pos lead, spelled]
  rfl

theorem Fits.looseSource_none {done t : Text}
    (split : layout.signed payment after = done ++ t) (before : (.char ')' : CodePoint) ∉ done) :
    Preview.looseSource t = none := by
  cases read : Preview.looseSource t with
  | none => rfl
  | some result =>
      obtain ⟨⟨⟩, left, head, later⟩ := Reader.bind_eq_some.mp read
      obtain ⟨row, right, rfl, blank, rfl⟩ := Preview.looseHead_eq_some head
      have whole : layout.signed payment after =
          (done ++ (("source" : Text) ++ row)) ++ .char '=' :: right := by
        rw [split]
        simp only [List.append_assoc]
      have free : (.char ')' : CodePoint) ∉ done ++ (("source" : Text) ++ row) := by
        simp only [List.mem_append, not_or]
        exact ⟨before, by decide, Text.IsRow.free blank (by decide)⟩
      have place := fits.first_sign whole free ⟨by decide, by decide⟩ blank rfl (by decide)
      have first : (right.dropWhile Preview.isBlockLead).head? = some (.char '@') := by
        rw [place]
        exact fits.head?_source
      obtain ⟨cap, mid, capped, further⟩ := Reader.bind_eq_some.mp later
      have uncapped : (right.dropWhile Preview.isBlockLead).head? ≠ some (.char 'm') := by
        rw [first]
        decide
      have passed := capped.symm.trans
        (Reader.optional_none (Reader.bind_none (Reader.word_none uncapped _) _))
      obtain ⟨-, rfl⟩ := Prod.mk.inj (Option.some.inj passed)
      obtain ⟨sigil, address, begun, last⟩ := Reader.bind_eq_some.mp further
      obtain ⟨taken, isSigil⟩ := Reader.char_eq_some begun
      obtain rfl := of_decide_eq_true isSigil
      obtain ⟨found, rest⟩ := result
      obtain ⟨n, within, reached⟩ := Preview.longestBefore_eq_some last
      -- Behind some letters of the source there would be a destination.
      have letters : address.take n <+: address.takeWhile Script.isAddressChar :=
        List.prefix_of_prefix_length_le (List.take_prefix n address) (List.takeWhile_prefix _)
          (Nat.le_trans (List.length_take_le n address) within)
      have closed : (.char ')' : CodePoint) ∉ (done ++ (("source" : Text) ++ row)) ++
          .char '=' :: (right.takeWhile Preview.isBlockLead ++ .char '@' :: address.take n) := by
        simp only [List.mem_append, List.mem_cons, not_or] at free ⊢
        refine ⟨free, by decide, fun mem => ?_, by decide, fun mem => ?_⟩
        · exact absurd (List.all_eq_true.mp List.all_takeWhile _ mem) (by decide)
        · exact absurd (List.all_eq_true.mp List.all_takeWhile _ (letters.subset mem))
            (by decide +kernel)
      have behind : layout.signed payment after = ((done ++ (("source" : Text) ++ row)) ++
          .char '=' :: (right.takeWhile Preview.isBlockLead ++ .char '@' :: address.take n)) ++
            address.drop n := by
        rw [whole]
        simp only [List.append_assoc, List.cons_append, List.take_append_drop]
        rw [← taken, List.takeWhile_append_dropWhile]
      rw [fits.looseDestination_none unnamed behind closed] at reached
      cases reached

/-- A payment that names no account to go to is not recognised in any way. -/
theorem Fits.looseSend_none : Preview.looseSend (layout.text payment ++ after) = none := by
  rw [Preview.looseSend, Reader.bind_some fits.sendHead_read]
  refine Reader.bind_none ?_ _
  cases found : Reader.upTo (· ≠ ')') Preview.looseSource (layout.signed payment after) with
  | none => rfl
  | some result =>
      obtain ⟨⟨passed, value⟩, rest⟩ := result
      obtain ⟨behind, split, all, read⟩ := Reader.upTo_eq_some found
      have before : (.char ')' : CodePoint) ∉ passed := fun mem => absurd (all _ mem) (by decide)
      rw [fits.looseSource_none unnamed split before] at read
      cases read

end Loose

end Layout

end DoubleEntry
