import DoubleEntry.Proofs.Script.Heads
import DoubleEntry.Proofs.Script.RoundTrip

/-!
# Payments

A payment is a send from one account, the source in front of the destination. In any layout
it is read as a send with this source and with its destinations in order, provided that its
amounts can be read.
-/

namespace DoubleEntry

open Text (IsGap Parted)

/-- Whether a text is any number of blanks. -/
abbrev Text.IsRow (row : Text) : Prop := ∀ c ∈ row, isBlank c = true

/-! ## What payments are made of -/

namespace Monetary

/-- Whether a text is some digits or the sign for everything. -/
def IsQuantity (t : Text) : Prop :=
  t = "*" ∨ t ≠ [] ∧ ∀ c ∈ t, isDecimalDigit c = true

/-- Whether a text can stand between the brackets of a literal: an asset, a gap and a
quantity. -/
inductive IsLiteral : Text → Prop
  | intro {asset gap quantity : Text} (named : asset ≠ [])
      (chars : ∀ c ∈ asset, isAssetChar c = true) (apart : IsGap gap)
      (amount : IsQuantity quantity) : IsLiteral (asset ++ (gap ++ quantity))

end Monetary

namespace Source

/-- Whether a text is nothing or the word for an overdraft without bounds. -/
inductive IsBound : Text → Prop
  | none : IsBound []
  | unbounded {gap : Text} (apart : IsGap gap) : IsBound (("unbounded" : Text) ++ gap)

/-- Whether a text is nothing or the limit of an overdraft, which holds neither sign by which
a body is taken apart. -/
inductive IsLimit : Text → Prop
  | none : IsLimit []
  | upTo {first second third literal : Text} (head : IsGap first) (middle : IsGap second)
      (tail : IsGap third) (literal_ : Monetary.IsLiteral literal)
      (free : ∀ c ∈ (")=" : Text), c ∉ literal) :
      IsLimit (first ++ (("up" : Text) ++ (second ++ (("to" : Text) ++
        (third ++ Text.enclosed '[' ']' literal)))))

/-- Whether a text is nothing or a grant of an overdraft. -/
inductive IsGrant : Text → Prop
  | none : IsGrant []
  | granted {first second bound limit : Text} (head : IsGap first) (tail : IsGap second)
      (bounded : IsBound bound) (limited : IsLimit limit) :
      IsGrant (first ++ (grantWord ++ (second ++ (bound ++ (("overdraft" : Text) ++ limit)))))

end Source

/-- What is written in a block of destinations: a receiver alone or behind a portion, with or
without the word between. -/
inductive Entry where
  | whole (receiver : Receiver)
  | share (portion : Text) (receiver : Receiver)
  | shareTo (portion : Text) (receiver : Receiver)

namespace Entry

/-- Who takes what an entry is about. -/
def receiver : Entry → Receiver
  | whole receiver => receiver
  | share _ receiver => receiver
  | shareTo _ receiver => receiver

/-- The destination that an entry stands for. -/
def destination : Entry → Destination
  | whole receiver => ⟨receiver, none⟩
  | share portion receiver => ⟨receiver, some portion⟩
  | shareTo portion receiver => ⟨receiver, some portion⟩

/-- Whether a receiver, if it is an account, is spelled like an address. -/
def IsNamed (receiver : Receiver) : Prop :=
  ∀ address, receiver = .account address → Script.IsAddress address

/-- Whether a text spells an entry. -/
inductive Spelled : Entry → Text → Prop
  | whole {receiver : Receiver} (named : IsNamed receiver) :
      Spelled (whole receiver) (Destination.receiverToken receiver)
  | share {portion gap : Text} {receiver : Receiver} (spelled : Script.IsPortion portion)
      (apart : IsGap gap) (named : IsNamed receiver) :
      Spelled (share portion receiver) (portion ++ (gap ++ Destination.receiverToken receiver))
  | shareTo {portion gap last : Text} {receiver : Receiver} (spelled : Script.IsPortion portion)
      (apart : IsGap gap) (final : IsGap last) (named : IsNamed receiver) :
      Spelled (shareTo portion receiver) (portion ++ (gap ++ (("to" : Text) ++
        (last ++ Destination.receiverToken receiver))))

/-- Whether a text spells entries, with any blanks around them. What follows an account must
not belong to its address. -/
inductive Listed : List Entry → Text → Prop
  | nil {row : Text} (blank : Text.IsRow row) : Listed [] row
  | cons {entry : Entry} {rest : List Entry} {row w later : Text} (blank : Text.IsRow row)
      (spelled : entry.Spelled w)
      (ends : ∀ address, entry.receiver = .account address →
        Reader.Ends Script.isAddressChar later)
      (others : Listed rest later) : Listed (entry :: rest) (row ++ (w ++ later))

end Entry

/-- What a payment goes to: one account, or the entries of a block. -/
inductive Target where
  | account (address : Text)
  | block (entries : List Entry)

namespace Target

/-- What is written of a target: an account is its only entry. -/
def entries : Target → List Entry
  | account address => [.whole (.account address)]
  | block entries => entries

/-- The destinations that a target stands for. -/
def destinations (target : Target) : List Destination := target.entries.map Entry.destination

/-- Whether a text spells a target. -/
inductive Spelled : Target → Text → Prop
  | account {address : Text} (spelled : Script.IsAddress address) :
      Spelled (account address) address
  | block {entries : List Entry} {inner : Text} (listed : Entry.Listed entries inner) :
      Spelled (block entries) (Text.enclosed '{' '}' inner)

end Target

/-- A send from one account; the literal is kept without its brackets. -/
structure Payment where
  literal : Text
  source : Text
  target : Target

/-- What besides a payment itself decides its text: the blanks, a grant of an overdraft, and
how the target is written. -/
structure Layout where
  behindSend : Text
  behindLiteral : Text
  beforeSource : Text
  beforeSourceSign : Text
  behindSourceSign : Text
  grant : Text
  beforeDestination : Text
  beforeDestinationSign : Text
  behindDestinationSign : Text
  target : Text
  atEnd : Text

namespace Layout

/-- What stands between the parentheses. -/
def body (layout : Layout) (payment : Payment) : Text :=
  layout.beforeSource ++ (("source" : Text) ++ (layout.beforeSourceSign ++ (("=" : Text) ++
    (layout.behindSourceSign ++ (payment.source ++ (layout.grant ++ (layout.beforeDestination ++
      (("destination" : Text) ++ (layout.beforeDestinationSign ++ (("=" : Text) ++
        (layout.behindDestinationSign ++ (layout.target ++ layout.atEnd))))))))))))

/-- A payment in a layout. -/
def text (layout : Layout) (payment : Payment) : Text :=
  ("send" : Text) ++ (layout.behindSend ++ (Text.enclosed '[' ']' payment.literal ++
    (layout.behindLiteral ++ Text.enclosed '(' ')' (layout.body payment))))

theorem text_nonempty (layout : Layout) (payment : Payment) : layout.text payment ≠ [] :=
  List.append_ne_nil_of_left_ne_nil (by decide) _

theorem text_getLast? (layout : Layout) (payment : Payment) :
    (layout.text payment).getLast? = some (.char ')') := by
  have split : layout.text payment = (("send" : Text) ++ (layout.behindSend ++
      (Text.enclosed '[' ']' payment.literal ++ (layout.behindLiteral ++
        (.char '(' :: layout.body payment))))) ++ [.char ')'] := by simp [text, Text.enclosed]
  rw [split, List.getLast?_concat]

/-- Whether a layout is one of a payment. Only behind the first word and in front of the
destination clause blanks are needed. -/
structure Fits (layout : Layout) (payment : Payment) : Prop where
  literal : Monetary.IsLiteral payment.literal
  source : Script.IsAddress payment.source
  target : payment.target.Spelled layout.target
  grant : Source.IsGrant layout.grant
  behindSend : IsGap layout.behindSend
  behindLiteral : Text.IsRow layout.behindLiteral
  beforeSource : Text.IsRow layout.beforeSource
  beforeSourceSign : Text.IsRow layout.beforeSourceSign
  behindSourceSign : Text.IsRow layout.behindSourceSign
  beforeDestination : IsGap layout.beforeDestination
  beforeDestinationSign : Text.IsRow layout.beforeDestinationSign
  behindDestinationSign : Text.IsRow layout.behindDestinationSign
  atEnd : Text.IsRow layout.atEnd

end Layout

namespace Payment

/-- Whether a script is made of payments, with any blanks around them. -/
inductive Listed : List Payment → Text → Prop
  | nil {row : Text} (blank : Text.IsRow row) : Listed [] row
  | cons {payment : Payment} {rest : List Payment} {layout : Layout} {row later : Text}
      (blank : Text.IsRow row) (fits : layout.Fits payment) (others : Listed rest later) :
      Listed (payment :: rest) (row ++ (layout.text payment ++ later))

end Payment

/-! ## Signs that do not occur -/

theorem Text.IsRow.free {row : Text} (blank : Text.IsRow row) {c : CodePoint}
    (solid : isBlank c = false) : c ∉ row := by
  intro mem
  rw [blank c mem] at solid
  cases solid

/-- A character that is no digit and stands in no other part of a portion. -/
theorem Script.IsPortion.free {portion : Text} (h : IsPortion portion) {c : CodePoint}
    (digit : isDecimalDigit c = false) (other : c ∉ ("./%remaining" : Text)) : c ∉ portion := by
  have number {w : Text} (digits : ∀ c ∈ w, isDecimalDigit c = true) : c ∉ w := by
    intro mem
    rw [digits c mem] at digit
    cases digit
  have part {w : Text} (covered : ∀ d ∈ w, d ∈ ("./%remaining" : Text)) : c ∉ w :=
    fun mem => other (covered c mem)
  cases h with
  | percentage nonempty digits =>
      rw [List.mem_append, not_or]
      refine ⟨fun mem => ?_, part (by decide)⟩
      rcases digits c mem with isDigit | rfl
      · rw [isDigit] at digit
        cases digit
      · exact other (by decide)
  | fraction above numerator below denominator =>
      simp only [List.mem_append, not_or]
      exact ⟨⟨number numerator, part (by decide)⟩, number denominator⟩
  | remaining => exact part (by decide)

theorem IsInner.free {w : Text} (inner : IsInner w) {c : CodePoint}
    (outside : isTokenChar c = false) : c ∉ w := by
  intro mem
  rw [inner.inner c mem] at outside
  cases outside

namespace Monetary

theorem isBlank_of_isAssetChar {c : CodePoint} (h : isAssetChar c = true) : isBlank c = false := by
  rw [isAssetChar, Bool.and_eq_true, Bool.not_eq_true'] at h
  exact h.1

section Quantity

variable {quantity : Text} (h : IsQuantity quantity)
include h

theorem IsQuantity.free {c : CodePoint} (digit : isDecimalDigit c = false)
    (other : c ∉ ("*" : Text)) : c ∉ quantity := by
  rcases h with rfl | ⟨-, digits⟩
  · exact other
  · intro mem
    rw [digits c mem] at digit
    cases digit

theorem IsQuantity.isToken : Text.IsToken quantity := by
  rcases h with rfl | ⟨nonempty, digits⟩
  · exact ⟨by decide, by decide⟩
  · exact ⟨nonempty, fun c mem => isBlank_of_isDecimalDigit (digits c mem)⟩

end Quantity

variable {literal : Text} (h : IsLiteral literal)
include h

theorem IsLiteral.unclosed : (.char ']' : CodePoint) ∉ literal := by
  obtain ⟨-, chars, apart, amount⟩ := h
  simp only [List.mem_append, not_or]
  exact ⟨fun mem => absurd (chars _ mem) (by decide), Text.IsRow.free apart.blank (by decide),
    amount.free (by decide +kernel) (by decide)⟩

theorem IsLiteral.nonempty : literal ≠ [] := by
  obtain ⟨named, -, -, -⟩ := h
  exact List.append_ne_nil_of_left_ne_nil named _

theorem IsLiteral.strip_eq_self : literal.strip = literal := by
  obtain ⟨named, chars, apart, amount⟩ := h
  rename_i asset gap quantity
  have laid : Text.LaidOut [asset, quantity] (asset ++ (gap ++ (quantity ++ []))) :=
    ⟨_, rfl, Text.Trail.cons apart Text.Trail.nil⟩
  rw [List.append_nil] at laid
  have asset_ : Text.IsToken asset := ⟨named, fun c mem => isBlank_of_isAssetChar (chars c mem)⟩
  exact laid.strip_eq_self
    (List.forall_mem_cons.mpr ⟨asset_, List.forall_mem_singleton.mpr amount.isToken⟩)

end Monetary

namespace Source

theorem IsGrant.parted {grant after : Text} (h : IsGrant grant) (parted : Parted after) :
    Parted (grant ++ after) := by
  cases h with
  | none => exact parted
  | granted head =>
      rw [List.append_assoc]
      exact head.parted _

/-- The signs by which a body is taken apart do not occur in a grant. -/
theorem IsGrant.free {grant : Text} (h : IsGrant grant) :
    ∀ c ∈ (")=" : Text), c ∉ grant := by
  have solid : ∀ c ∈ (")=" : Text), isBlank c = false := by decide
  have words : ∀ c ∈ (")=" : Text), c ∉ grantWord ∧ c ∉ ("unbounded" : Text) ∧
      c ∉ ("overdraft" : Text) ∧ c ∉ ("up" : Text) ∧ c ∉ ("to" : Text) ∧ c ∉ ("[]" : Text) := by
    decide
  intro c sign
  obtain ⟨allowing, unbounded, overdraft, up, bridge, brackets⟩ := words c sign
  have gap {gap : Text} (apart : IsGap gap) : c ∉ gap := Text.IsRow.free apart.blank (solid c sign)
  cases h with
  | none => exact List.not_mem_nil
  | granted head tail bounded limited =>
      simp only [List.mem_append, not_or]
      refine ⟨gap head, allowing, gap tail, ?_, overdraft, ?_⟩
      · cases bounded with
        | none => exact List.not_mem_nil
        | unbounded apart => exact List.mem_append.not.mpr (not_or.mpr ⟨unbounded, gap apart⟩)
      · cases limited with
        | none => exact List.not_mem_nil
        | upTo first second third literal free =>
            have literal := free c sign
            simp only [Text.enclosed, List.mem_append, List.mem_cons, not_or] at brackets ⊢
            simp_all

end Source

namespace Entry

theorem IsNamed.inner {receiver : Receiver} (named : IsNamed receiver) :
    IsInner (Destination.receiverToken receiver) :=
  Destination.receiver_inner named

/-- Whether a character can stand in an entry, other than as a blank. -/
def isLetter (c : CodePoint) : Bool :=
  isWordChar c || isDecimalDigit c || ("@:-./%" : Text).contains c

theorem isLetter_of_isWordChar {c : CodePoint} (h : isWordChar c = true) : isLetter c = true := by
  simp [isLetter, h]

theorem isLetter_of_isDecimalDigit {c : CodePoint} (h : isDecimalDigit c = true) :
    isLetter c = true := by
  simp [isLetter, h]

theorem isLetter_of_isPortion {portion : Text} (h : Script.IsPortion portion) :
    ∀ c ∈ portion, isLetter c = true := by
  have marks : ∀ c ∈ ("./%" : Text), isLetter c = true := by decide +kernel
  have digits {w : Text} (all : ∀ c ∈ w, isDecimalDigit c = true) : ∀ c ∈ w, isLetter c = true :=
    fun c mem => isLetter_of_isDecimalDigit (all c mem)
  cases h with
  | percentage nonempty number =>
      refine List.forall_mem_append.mpr ⟨fun c mem => ?_, fun c mem => marks c (by simp_all)⟩
      rcases number c mem with digit | rfl
      · exact isLetter_of_isDecimalDigit digit
      · exact marks _ (by decide)
  | fraction above numerator below denominator =>
      exact List.forall_mem_append.mpr ⟨List.forall_mem_append.mpr ⟨digits numerator,
        fun c mem => marks c (by simp_all)⟩, digits denominator⟩
  | remaining => decide +kernel

theorem IsNamed.letters {receiver : Receiver} (named : IsNamed receiver) :
    ∀ c ∈ Destination.receiverToken receiver, isLetter c = true := by
  have marks : ∀ c ∈ ("@:-" : Text), isLetter c = true := by decide +kernel
  cases receiver with
  | kept =>
      have kept : ∀ c ∈ Destination.keptWord, isLetter c = true := by decide +kernel
      exact kept
  | account address =>
      obtain ⟨nonempty, chars⟩ := named address rfl
      refine List.forall_mem_cons.mpr ⟨marks _ (by decide), fun c mem => ?_⟩
      rcases chars c mem with letter | rfl | rfl
      · exact isLetter_of_isWordChar letter
      · exact marks _ (by decide)
      · exact marks _ (by decide)

theorem Spelled.letters {entry : Entry} {w : Text} (spelled : entry.Spelled w) :
    ∀ c ∈ w, isBlank c = true ∨ isLetter c = true := by
  have letters {w : Text} (all : ∀ c ∈ w, isLetter c = true) :
      ∀ c ∈ w, isBlank c = true ∨ isLetter c = true := fun c mem => Or.inr (all c mem)
  have gap {gap : Text} (apart : IsGap gap) :
      ∀ c ∈ gap, isBlank c = true ∨ isLetter c = true :=
    fun c mem => Or.inl (apart.blank c mem)
  have bridge : ∀ c ∈ ("to" : Text), isLetter c = true := by decide +kernel
  cases spelled with
  | whole named => exact letters named.letters
  | share portion apart named =>
      exact List.forall_mem_append.mpr ⟨letters (isLetter_of_isPortion portion),
        List.forall_mem_append.mpr ⟨gap apart, letters named.letters⟩⟩
  | shareTo portion apart final named =>
      exact List.forall_mem_append.mpr ⟨letters (isLetter_of_isPortion portion),
        List.forall_mem_append.mpr ⟨gap apart, List.forall_mem_append.mpr ⟨letters bridge,
          List.forall_mem_append.mpr ⟨gap final, letters named.letters⟩⟩⟩⟩

theorem Listed.letters {entries : List Entry} {inner : Text} (listed : Listed entries inner) :
    ∀ c ∈ inner, isBlank c = true ∨ isLetter c = true := by
  induction listed with
  | nil blank => exact fun c mem => Or.inl (blank c mem)
  | cons blank spelled ends others ih =>
      exact List.forall_mem_append.mpr ⟨fun c mem => Or.inl (blank c mem),
        List.forall_mem_append.mpr ⟨spelled.letters, ih⟩⟩

/-- No delimiter occurs among entries. -/
theorem Listed.free {entries : List Entry} {inner : Text} (listed : Listed entries inner) :
    ∀ c ∈ (")=[\x7b\x7d" : Text), c ∉ inner := by
  have other : ∀ c ∈ (")=[\x7b\x7d" : Text), isBlank c = false ∧ isLetter c = false := by
    decide +kernel
  intro c sign mem
  obtain ⟨solid, outside⟩ := other c sign
  rcases listed.letters c mem with blank | letter
  · rw [solid] at blank
    cases blank
  · rw [outside] at letter
    cases letter

end Entry

namespace Target

theorem Spelled.free {target : Target} {t : Text} (spelled : target.Spelled t) :
    ∀ c ∈ (")=" : Text), c ∉ t := by
  have outside : ∀ c ∈ (")=" : Text), isTokenChar c = false ∧ c ∈ (")=[\x7b\x7d" : Text) ∧
      c ∉ ("\x7b\x7d" : Text) := by
    decide +kernel
  intro c sign
  obtain ⟨other, inside, braces⟩ := outside c sign
  cases spelled with
  | account address => exact address.inner.free other
  | block listed =>
      have free := listed.free c inside
      simp only [Text.enclosed, List.mem_append, List.mem_cons, not_or] at braces ⊢
      simp_all

end Target

namespace Layout

variable {layout : Layout} {payment : Payment} (fits : layout.Fits payment)
include fits

theorem Fits.free_source : ∀ c ∈ (")=" : Text), c ∉ payment.source := by
  have outside : ∀ c ∈ (")=" : Text), isTokenChar c = false := by decide +kernel
  exact fun c sign => fits.source.inner.free (outside c sign)

/-- No closing parenthesis occurs in a body. -/
theorem Fits.body_free : (.char ')' : CodePoint) ∉ layout.body payment := by
  have solid : isBlank (.char ')') = false := by decide
  unfold body
  simp only [List.mem_append, not_or]
  exact ⟨Text.IsRow.free fits.beforeSource solid, by decide,
    Text.IsRow.free fits.beforeSourceSign solid, by decide,
    Text.IsRow.free fits.behindSourceSign solid, fits.free_source _ (by decide),
    fits.grant.free _ (by decide), Text.IsRow.free fits.beforeDestination.blank solid, by decide,
    Text.IsRow.free fits.beforeDestinationSign solid, by decide,
    Text.IsRow.free fits.behindDestinationSign solid, fits.target.free _ (by decide),
    Text.IsRow.free fits.atEnd solid⟩

theorem Fits.statement_read (after : Text) :
    Send.statement (layout.text payment ++ after) =
      some (⟨Text.enclosed '[' ']' payment.literal, layout.body payment⟩, after) :=
  Send.statement_read fits.behindSend fits.literal.unclosed fits.behindLiteral fits.body_free after

end Layout

/-! ## Reading targets -/

namespace Entry

theorem Spelled.nonempty {entry : Entry} {w : Text} (spelled : entry.Spelled w) : w ≠ [] := by
  cases spelled with
  | whole named => exact named.inner.nonempty
  | share portion apart named => exact List.append_ne_nil_of_left_ne_nil portion.inner.nonempty _
  | shareTo portion apart final named =>
      exact List.append_ne_nil_of_left_ne_nil portion.inner.nonempty _

theorem Listed.eq_nil {entries : List Entry} (listed : Listed entries []) : entries = [] := by
  generalize none : ([] : Text) = inner at listed
  cases listed with
  | nil blank => rfl
  | cons blank spelled ends others =>
      obtain ⟨-, behind⟩ := List.append_eq_nil_iff.mp none.symm
      exact absurd (List.append_eq_nil_iff.mp behind).1 spelled.nonempty

/-- An entry is read as its destination. -/
theorem Spelled.read {entry : Entry} {w after : Text} (spelled : entry.Spelled w)
    (ends : ∀ address, entry.receiver = .account address →
      Reader.Ends Script.isAddressChar after) :
    Destination.item (w ++ after) = some (entry.destination, after) := by
  cases spelled with
  | whole named => exact Destination.item_whole named ends
  | share portion apart named =>
      simp only [List.append_assoc]
      exact Destination.item_share named ends portion apart
  | shareTo portion apart final named =>
      simp only [List.append_assoc]
      exact Destination.item_shareTo named ends portion apart final

/-- Entries stand in a row as their destinations. -/
theorem Listed.row {entries : List Entry} {inner : Text} (listed : Listed entries inner) :
    ∃ found, Search.Row Destination.item found inner ∧
      found.map Prod.snd = entries.map destination := by
  induction listed with
  | nil blank => exact ⟨[], Search.Row.done blank, rfl⟩
  | @cons entry rest row w later blank spelled ends others ih =>
      obtain ⟨found, inside, same⟩ := ih
      refine ⟨(w, entry.destination) :: found, ?_, by rw [List.map_cons, List.map_cons, same]⟩
      rw [← List.append_assoc]
      exact Search.Row.read blank spelled.nonempty (spelled.read ends) inside

end Entry

namespace Target

variable {target : Target} {t : Text} (spelled : target.Spelled t)
include spelled

theorem Spelled.ofBlock : Destination.ofBlock t = target.destinations := by
  cases spelled with
  | account address => exact Destination.ofBlock_address address
  | block listed =>
      obtain ⟨found, row, same⟩ := listed.row
      exact (Destination.ofBlock_block row).trans same

theorem Spelled.solid (after : Text) : Reader.Ends isBlank (t ++ after) := by
  cases spelled with
  | account address => exact address.inner.isToken.ends after
  | block listed => exact Script.block_ends _ after

theorem Spelled.read {after : Text} (ends : Reader.Ends Script.isAddressChar after) :
    Destination.rightSide (t ++ after) = some (t, after) := by
  cases spelled with
  | account address => exact Destination.rightSide_address address ends
  | block listed =>
      exact Reader.or_some (Script.braceBlock_read (listed.free _ (by decide)) after) _

end Target

/-! ## Reading sources -/

namespace Source

theorem grant_takes : grant.Takes fun _ => True := by
  have gap : Reader.gap.Takes fun _ => True := Reader.takes_gap fun _ _ => trivial
  have word (w : Text) : (Reader.word w).Takes fun _ => True :=
    Reader.takes_word fun _ _ => trivial
  have limit : limitClause.Takes fun _ => True :=
    gap.bind fun _ => (word _).bind fun _ => gap.bind fun _ => (word _).bind fun _ =>
      gap.bind fun _ => Reader.takes_enclosed1 _ _
  have unbounded : unboundedClause.Takes fun _ => True := (word _).bind fun _ => gap
  rw [grant_eq]
  exact gap.bind fun _ => (word _).bind fun _ => gap.bind fun _ => unbounded.optional.bind fun _ =>
    (word _).bind fun _ => limit.optional.bind fun _ => Reader.takes_pure _

/-- Whatever comes next, nothing or some text behind a gap is taken as a grant. -/
theorem grant_taken (t : Text) : ∃ parsed taken left, t = taken ++ left ∧ Parted taken ∧
    Reader.optional grant t = some (parsed, left) := by
  cases read : grant t with
  | none => exact ⟨none, [], t, rfl, Text.parted_nil, Reader.optional_none read⟩
  | some result =>
      obtain ⟨parsed, left⟩ := result
      obtain ⟨taken, split, -⟩ := grant_takes _ _ _ read
      refine ⟨some parsed, taken, left, split, ?_, Reader.optional_some read⟩
      obtain ⟨⟨⟩, behind, apart, -⟩ := Reader.bind_eq_some.mp read
      obtain ⟨gap, spaced, isGap⟩ := Text.gap_eq_some apart
      have parted := isGap.parted behind
      rw [← spaced, split] at parted
      cases taken with
      | nil => exact Text.parted_nil
      | cons c rest => exact parted

section Bare

variable {address : Text} (spelled : Script.IsAddress address)
include spelled

/-- An address on the right side of a source clause is taken with what seems a grant. -/
theorem rightSide_address {after : Text} (parted : Parted after) :
    ∃ taken left, after = taken ++ left ∧ Parted taken ∧
      rightSide (address ++ after) = some (address ++ taken, left) := by
  obtain ⟨parsed, taken, left, rfl, front, read⟩ := grant_taken after
  refine ⟨taken, left, rfl, front, ?_⟩
  have bare : (do
      let _ ← Script.accountRef
      Reader.optional grant : Reader _) ((address ++ taken) ++ left) = some (parsed, left) := by
    rw [List.append_assoc, Reader.bind_some (spelled.read parted)]
    exact read
  have unbraced := Destination.address_unbraced spelled (taken ++ left)
  rw [rightSide, Reader.or_none (Script.braceBlock_none unbraced), ← List.append_assoc]
  exact Reader.map_some (Reader.withText_append bare) Prod.snd

/-- Blanks at the end of what seems a grant are dropped. -/
theorem strip_address {taken : Text} (parted : Parted taken) :
    ∃ kept, (address ++ taken).strip = address ++ kept ∧ Parted kept := by
  have token := spelled.inner.isToken
  have front {w : Text} (token : Text.IsToken w) (after : Text) :
      (w ++ after).dropWhile isBlank = w ++ after := by
    obtain ⟨c, rest, rfl⟩ := List.exists_cons_of_ne_nil token.nonempty
    rw [List.cons_append, List.dropWhile_cons, token.solid c List.mem_cons_self]
    rfl
  have back : address.reverse.dropWhile isBlank = address.reverse := by
    have mirrored : Text.IsToken address.reverse :=
      ⟨mt List.reverse_eq_nil_iff.mp token.nonempty,
        fun c mem => token.solid c (List.mem_reverse.mp mem)⟩
    have whole := front mirrored []
    rwa [List.append_nil] at whole
  refine ⟨(taken.reverse.dropWhile isBlank).reverse, ?_, ?_⟩
  · rw [Text.strip, front token, List.reverse_append, List.dropWhile_append, back]
    split
    · next none =>
        rw [List.isEmpty_iff.mp none, List.reverse_reverse, List.reverse_nil, List.append_nil]
    · rw [List.reverse_append, List.reverse_reverse]
  · obtain ⟨rest, split⟩ : (taken.reverse.dropWhile isBlank).reverse <+: taken := by
      have ending := List.dropWhile_suffix isBlank (l := taken.reverse)
      rwa [← List.reverse_prefix, List.reverse_reverse] at ending
    generalize (taken.reverse.dropWhile isBlank).reverse = kept at split
    cases kept with
    | nil => exact Text.parted_nil
    | cons c more =>
        rw [← split] at parted
        exact parted

theorem item_address {taken : Text} (parted : Parted taken) :
    ∃ parts rest, item (address ++ taken) = some (parts, rest) ∧ parts.cap = none ∧
      parts.account = address := by
  obtain ⟨parsed, front, left, rfl, -, read⟩ := grant_taken taken
  have uncapped : Reader.optional capClause (address ++ (front ++ left)) =
      some (none, address ++ (front ++ left)) := by
    refine Reader.optional_none (Reader.bind_none (Reader.word_none (c := 'm') ?_ _) _)
    rw [spelled.head?]
    decide
  refine ⟨⟨none, address, parsed⟩, left, ?_, rfl, rfl⟩
  rw [item, Reader.bind_some uncapped, Reader.bind_some (spelled.read parted),
    Reader.bind_some read]
  rfl

/-- An address with what seems a grant is the only source, if it is read at all. -/
theorem ofBlock_address {taken : Text} (parted : Parted taken) {sources : List Source}
    (h : ofBlock (address ++ taken) = .ok sources) : sources.map Source.account = [address] := by
  obtain ⟨kept, stripped, front⟩ := strip_address spelled parted
  obtain ⟨parts, rest, read, uncapped, named⟩ := item_address spelled front
  obtain ⟨written, taken⟩ : ∃ written, Reader.withText item (address ++ kept) =
      some ((parts, written), rest) := ⟨_, by rw [Reader.withText, read]⟩
  rw [ofBlock, stripped, if_neg (Destination.address_unbraced spelled kept), taken] at h
  dsimp only at h
  rw [uncapped, Option.isSome_none, if_neg Bool.false_ne_true] at h
  cases made : ofParts written parts with
  | error fault =>
      rw [made] at h
      cases h
  | ok source =>
      rw [made] at h
      obtain rfl : [source] = sources := Except.ok.inj h
      obtain ⟨cap, -, later⟩ := bind_eq_ok.mp made
      obtain ⟨limit, -, same⟩ := bind_eq_ok.mp later
      obtain rfl := Except.ok.inj same
      exact congrArg (fun account => [account]) named

end Bare

end Source

/-! ## Reading payments -/

namespace Layout

variable {layout : Layout} {payment : Payment} (fits : layout.Fits payment)
include fits

/-- The source clause of a body is found, with what seems a grant. -/
theorem Fits.first?_source : ∃ found taken,
    Search.first? Search.anywhere Source.clause (layout.body payment) = some found ∧
      found.value = payment.source ++ taken ∧ Parted taken := by
  obtain ⟨taken, left, split, parted, read⟩ := Source.rightSide_address fits.source
    (fits.grant.parted (fits.beforeDestination.parted (("destination" : Text) ++
      (layout.beforeDestinationSign ++ (("=" : Text) ++ (layout.behindDestinationSign ++
        (layout.target ++ layout.atEnd)))))))
  have solid : Reader.Ends isBlank ((payment.source ++ taken) ++ left) := by
    rw [List.append_assoc]
    exact fits.source.inner.isToken.ends _
  rw [split, ← List.append_assoc] at read
  obtain ⟨found, first, same⟩ := Source.first?_clause fits.beforeSource fits.beforeSourceSign
    fits.behindSourceSign solid read
  refine ⟨found, taken, ?_, same, parted⟩
  rw [← first, body, split]
  simp only [List.append_assoc]

/-- The destination clause of a body is found. -/
theorem Fits.first?_destination : ∃ found,
    Search.first? Search.anywhere Destination.clause (layout.body payment) = some found ∧
      found.value = layout.target := by
  have silent : (.char 'd' : CodePoint) ∉ layout.beforeSource ++ (("source" : Text) ++
      (layout.beforeSourceSign ++ ("=" : Text))) := by
    have solid : isBlank (.char 'd') = false := by decide
    simp only [List.mem_append, not_or]
    exact ⟨Text.IsRow.free fits.beforeSource solid, by decide,
      Text.IsRow.free fits.beforeSourceSign solid, by decide⟩
  have free : (.char '=' : CodePoint) ∉ layout.behindSourceSign ++
      (payment.source ++ layout.grant) := by
    have solid : isBlank (.char '=') = false := by decide
    simp only [List.mem_append, not_or]
    exact ⟨Text.IsRow.free fits.behindSourceSign solid, fits.free_source _ (by decide),
      fits.grant.free _ (by decide)⟩
  have parted : Parted layout.atEnd := fun c mem => fits.atEnd c (List.mem_of_mem_head? mem)
  have read := fits.target.read (parted.ends fun _ => Script.isAddressChar_of_isBlank)
  obtain ⟨found, first, same⟩ := Destination.first?_clause silent free fits.beforeDestination
    fits.beforeDestinationSign fits.behindDestinationSign (fits.target.solid _) read
  refine ⟨found, ?_, same⟩
  rw [← first, body]
  simp only [List.append_assoc]

/-- A payment that is read as a send has its source and its destinations. -/
theorem Fits.ofText_text {send : Send} (h : Send.ofText (layout.text payment) = .ok send) :
    send.sources.map Source.account = [payment.source] ∧
      send.destinations = payment.target.destinations := by
  have read := fits.statement_read []
  rw [List.append_nil] at read
  rw [Send.ofText_eq_ofParts (layout.text_nonempty payment) read] at h
  obtain ⟨source, taken, firstSource, block, parted⟩ := fits.first?_source
  obtain ⟨destination, firstDestination, target⟩ := fits.first?_destination
  have bracket : (Text.enclosed '[' ']' payment.literal).head? = some (.char '[') := rfl
  rw [Send.ofParts, if_neg (not_not.mpr bracket), firstSource, firstDestination] at h
  obtain ⟨monetary, -, later⟩ := bind_eq_ok.mp h
  obtain ⟨sources, made, same⟩ := bind_eq_ok.mp later
  obtain rfl := Except.ok.inj same
  rw [block] at made
  refine ⟨Source.ofBlock_address fits.source parted made, ?_⟩
  dsimp only
  rw [target, fits.target.ofBlock]

end Layout

namespace Payment

theorem statement_letter (t : Text) (other : t.head? ≠ some (.char 's')) :
    Send.statement t = none :=
  Reader.bind_none (Reader.word_none other _) _

/-- A search for what begins with the word of a send passes over blanks. -/
theorem passes_row {α : Type} {r : Reader α} {gate : Search.Gate}
    (needs : ∀ t, t.head? ≠ some (.char 's') → r t = none) {row : Text} (blank : Text.IsRow row)
    (before : Option CodePoint) (after : Text) :
    Search.beginsIn gate r before row after = false :=
  Search.beginsIn_of_notMem needs (Text.IsRow.free blank (by decide)) before after

/-- The statements of a script of payments are the payments. -/
theorem Listed.statements {payments : List Payment} {script : Text}
    (listed : Listed payments script) :
    List.Forall₂ (fun payment found => ∃ layout : Layout, layout.Fits payment ∧
      found.text = layout.text payment) payments (Send.statements script) := by
  have opened {row : Text} (blank : Text.IsRow row) :
      Search.atWordStart isWordChar (Search.lastOf none row) = true := by
    rw [Search.lastOf_eq, Option.or_none, Search.atWordStart]
    cases last : row.getLast? with
    | none => rfl
    | some c =>
        rw [Option.any_some, isWordChar_of_isBlank (blank c (List.mem_of_getLast? last))]
        rfl
  induction listed with
  | @nil row blank =>
      have all := Search.all_append (passes_row statement_letter blank none [])
        (opened blank)
      rw [List.append_nil] at all
      rw [Send.statements, all, Search.all, Search.parts]
      exact List.Forall₂.nil
  | @cons payment rest layout row later blank fits others ih =>
      have closed : Search.atWordStart isWordChar (layout.text payment).getLast? = true := by
        rw [layout.text_getLast? payment]
        decide +kernel
      have here := @Search.all_read _ (Search.atWordStart isWordChar) Send.statement _ [] later _
        rfl (layout.text_nonempty payment) (fits.statement_read later) rfl closed
      rw [List.nil_append] at here
      rw [Send.statements, Search.all_append (passes_row statement_letter blank none _)
        (opened blank), here, List.map_cons, List.map_map]
      refine List.Forall₂.cons ⟨layout, fits, rfl⟩ ?_
      exact List.forall₂_map_right_iff.mpr ih

/-- The sends of a script of payments, none of which fails, are those of the payments. -/
theorem Listed.sends {payments : List Payment} {script : Text} (listed : Listed payments script)
    (unfailed : (Script.ofText script).failures = []) :
    List.Forall₂ (fun payment send => send.sources.map Source.account = [payment.source] ∧
      send.destinations = payment.target.destinations) payments (Script.ofText script).sends := by
  have statements := listed.statements
  have read := Script.sends_of_statements unfailed
  generalize Send.statements script = found at statements read
  generalize (Script.ofText script).sends = sends at read
  clear listed
  induction statements generalizing sends with
  | nil =>
      cases read
      exact List.Forall₂.nil
  | cons here others ih =>
      obtain ⟨layout, fits, same⟩ := here
      cases read with
      | cons made later =>
          rw [same] at made
          exact List.Forall₂.cons (fits.ofText_text made) (ih _ later)

end Payment

end DoubleEntry
