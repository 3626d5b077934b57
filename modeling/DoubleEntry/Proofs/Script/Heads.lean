import DoubleEntry.Proofs.Script.WellFormed
import DoubleEntry.Proofs.Text.Layout
import DoubleEntry.Proofs.Text.Places
import DoubleEntry.Script.Basic
import Mathlib.Data.List.Perm.Subperm

/-!
# Heads of sends

What begins like a send with a literal is a head. In a script with which nothing is wrong
every statement begins with a head, but a head can be lost: it counts for no statement if its
parenthesis is never closed or if it stands within the text of a statement. Nothing is
reported of it then.
-/

namespace DoubleEntry

namespace Send

/-- What a send with a literal begins with, up to the opening parenthesis. -/
def head : Reader Unit := do
  Reader.word "send"
  Reader.gap
  let _ ← Reader.enclosed '[' ']'
  Reader.blanks
  let _ ← Reader.char (· = '(')

/-! ## The shape of heads and statements -/

/-- A text that stands for an amount: a literal, or characters none of which is a blank. -/
inductive IsAmount : Text → Prop
  | literal {inner : Text} (free : (.char ']' : CodePoint) ∉ inner) :
      IsAmount (Text.enclosed '[' ']' inner)
  | token {w : Text} (token : Text.IsToken w) : IsAmount w

/-- The word that begins a send, a gap, an amount, blanks and a body. -/
structure IsStatement (amount body t : Text) : Prop where
  isAmount : IsAmount amount
  body_free : (.char ')' : CodePoint) ∉ body
  spelled : ∃ gap row, Text.IsGap gap ∧ (∀ c ∈ row, isBlank c = true) ∧
    t = ("send" : Text) ++ (gap ++ (amount ++ (row ++ Text.enclosed '(' ')' body)))

theorem literal_solid (inner after : Text) :
    Reader.Ends isBlank (Text.enclosed '[' ']' inner ++ after) :=
  Reader.ends_cons (by decide) _

theorem body_solid (inner after : Text) :
    Reader.Ends isBlank (Text.enclosed '(' ')' inner ++ after) :=
  Reader.ends_cons (by decide) _

theorem IsAmount.solid {amount : Text} (isAmount : IsAmount amount) (after : Text) :
    Reader.Ends isBlank (amount ++ after) := by
  cases isAmount with
  | literal free => exact literal_solid _ after
  | token token => exact token.ends after

theorem head_eq_some {t after : Text} :
    head t = some ((), after) ↔ ∃ gap inner row, Text.IsGap gap ∧ (.char ']' : CodePoint) ∉ inner ∧
      (∀ c ∈ row, isBlank c = true) ∧
      t = ("send" : Text) ++ (gap ++ (Text.enclosed '[' ']' inner ++ (row ++ .char '(' :: after))) := by
  constructor
  · intro h
    obtain ⟨⟨⟩, behind, word, later⟩ := Reader.bind_eq_some.mp h
    obtain ⟨⟨⟩, literal, apart, bracketed⟩ := Reader.bind_eq_some.mp later
    obtain ⟨inner, blanks, enclosed, opened⟩ := Reader.bind_eq_some.mp bracketed
    obtain ⟨⟨⟩, paren, passed, last⟩ := Reader.bind_eq_some.mp opened
    obtain ⟨first, rest, begun, made⟩ := Reader.bind_eq_some.mp last
    obtain rfl := (Prod.mk.inj (Option.some.inj made)).2
    obtain ⟨gap, rfl, isGap⟩ := Text.gap_eq_some apart
    obtain ⟨free, rfl⟩ := Reader.enclosed_eq_some enclosed
    obtain ⟨row, rfl, blank⟩ := Text.blanks_eq_some passed
    obtain ⟨rfl, isParen⟩ := Reader.char_eq_some begun
    obtain rfl := of_decide_eq_true isParen
    exact ⟨gap, inner, row, isGap, free, blank, Reader.word_eq_some word⟩
  · rintro ⟨gap, inner, row, isGap, free, blank, rfl⟩
    have paren : Reader.char (· = '(') (.char '(' :: after) = some (.char '(', after) :=
      Reader.char_some (by decide) after
    have paren_solid : Reader.Ends isBlank (.char '(' :: after) := Reader.ends_cons (by decide) _
    rw [head, Reader.bind_some (Reader.word_append _ _),
      Reader.bind_some (isGap.read (literal_solid inner _)),
      Reader.bind_some (Reader.enclosed_append free _),
      Reader.bind_some (Text.blanks_append blank paren_solid), Reader.bind_some paren]
    rfl

/-- A head is a head whatever comes behind it. -/
theorem head_append {t after : Text} (h : head t = some ((), after)) (more : Text) :
    head (t ++ more) = some ((), after ++ more) := by
  obtain ⟨gap, inner, row, isGap, free, blank, rfl⟩ := head_eq_some.mp h
  refine head_eq_some.mpr ⟨gap, inner, row, isGap, free, blank, ?_⟩
  simp only [List.append_assoc, List.cons_append]

theorem body_eq_some {t inner rest : Text} (h : body t = some (inner, rest)) :
    ∃ row, t = row ++ (Text.enclosed '(' ')' inner ++ rest) ∧ (.char ')' : CodePoint) ∉ inner ∧
      ∀ c ∈ row, isBlank c = true := by
  obtain ⟨⟨⟩, paren, passed, enclosed⟩ := Reader.bind_eq_some.mp h
  obtain ⟨row, rfl, blank⟩ := Text.blanks_eq_some passed
  obtain ⟨free, rfl⟩ := Reader.enclosed_eq_some enclosed
  exact ⟨row, rfl, free, blank⟩

theorem body_append {row inner : Text} (blank : ∀ c ∈ row, isBlank c = true)
    (free : (.char ')' : CodePoint) ∉ inner) (rest : Text) :
    body (row ++ (Text.enclosed '(' ')' inner ++ rest)) = some (inner, rest) := by
  rw [body, Reader.bind_some (Text.blanks_append blank (body_solid inner rest))]
  exact Reader.enclosed_append free rest

theorem amountAndBody_eq_some {t rest : Text} {parts : Parts}
    (h : amountAndBody t = some (parts, rest)) :
    IsAmount parts.amount ∧ ∃ after, t = parts.amount ++ after ∧
      body after = some (parts.body, rest) := by
  rcases Reader.or_eq_some h with literal | bare
  · obtain ⟨inner, after, enclosed, later⟩ := Reader.bind_eq_some.mp literal
    obtain ⟨content, left, read, made⟩ := Reader.bind_eq_some.mp later
    obtain ⟨rfl, rfl⟩ := Prod.mk.inj (Option.some.inj made)
    obtain ⟨free, rfl⟩ := Reader.enclosed_eq_some enclosed
    exact ⟨.literal free, after, rfl, read⟩
  · obtain ⟨⟨amount, content⟩, left, passed, made⟩ := Reader.bind_eq_some.mp bare
    obtain ⟨rfl, rfl⟩ := Prod.mk.inj (Option.some.inj made)
    obtain ⟨after, rfl, nonempty, all, read⟩ := Reader.upTo1_eq_some passed
    exact ⟨.token ⟨nonempty, fun c mem => by simpa using all c mem⟩, after, rfl, read⟩

/-- What is read as a statement is one. -/
theorem statement_eq_some {t rest : Text} {parts : Parts}
    (h : statement t = some (parts, rest)) :
    ∃ w, t = w ++ rest ∧ IsStatement parts.amount parts.body w := by
  obtain ⟨⟨⟩, behind, word, later⟩ := Reader.bind_eq_some.mp h
  obtain ⟨⟨⟩, begun, apart, read⟩ := Reader.bind_eq_some.mp later
  obtain ⟨gap, rfl, isGap⟩ := Text.gap_eq_some apart
  obtain ⟨isAmount, after, rfl, bodied⟩ := amountAndBody_eq_some read
  obtain ⟨row, rfl, free, blank⟩ := body_eq_some bodied
  refine ⟨_, ?_, isAmount, free, gap, row, isGap, blank, rfl⟩
  rw [Reader.word_eq_some word]
  simp only [List.append_assoc]

theorem IsAmount.reads {amount after : Text} (isAmount : IsAmount amount)
    (bodied : (body after).isSome = true) : (amountAndBody (amount ++ after)).isSome = true := by
  obtain ⟨⟨inner, rest⟩, read⟩ := Option.isSome_iff_exists.mp bodied
  cases isAmount with
  | literal free =>
      rw [amountAndBody, Reader.or_some]
      · rfl
      · rw [Reader.bind_some (Reader.enclosed_append free after), Reader.bind_some read]
        rfl
  | token token =>
      have solid : ∀ c ∈ amount, (!isBlank c) = true := by
        intro c mem
        rw [token.solid c mem]
        rfl
      obtain ⟨⟨⟨passed, content⟩, left⟩, taken⟩ := Option.isSome_iff_exists.mp
        (Reader.upTo1_isSome token.nonempty solid bodied)
      apply Reader.or_isSome
      rw [Reader.bind_some taken]
      rfl

/-- Where a statement is spelled out, a statement can be read. -/
theorem IsStatement.reads {amount body w : Text} (shape : IsStatement amount body w)
    (rest : Text) : (statement (w ++ rest)).isSome = true := by
  obtain ⟨isAmount, free, gap, row, isGap, blank, rfl⟩ := shape
  have bodied : (Send.body (row ++ (Text.enclosed '(' ')' body ++ rest))).isSome = true := by
    rw [body_append blank free]
    rfl
  simp only [List.append_assoc]
  rw [statement, Reader.bind_some (Reader.word_append _ _),
    Reader.bind_some (isGap.read (isAmount.solid _))]
  exact isAmount.reads bodied

/-- Every statement takes the text that spells it out. -/
theorem statement_takesFront : Reader.TakesFront statement := by
  intro t rest parts read
  obtain ⟨w, split, shape⟩ := statement_eq_some read
  obtain ⟨gap, row, -, -, rfl⟩ := shape.spelled
  exact ⟨_, List.cons_ne_nil _ _, split⟩

/-- Behind a head whose parenthesis is closed a statement can be read. -/
theorem statement_of_head {t after : Text} (h : head t = some ((), after))
    (closed : (.char ')' : CodePoint) ∈ after) : (statement t).isSome = true := by
  obtain ⟨gap, inner, row, isGap, free, blank, rfl⟩ := head_eq_some.mp h
  obtain ⟨content, rest, rfl, body_free⟩ := List.eq_append_cons_of_mem closed
  have shape : IsStatement (Text.enclosed '[' ']' inner) content _ :=
    ⟨.literal free, body_free, gap, row, isGap, blank, rfl⟩
  have reads := shape.reads rest
  simp only [Text.enclosed, List.append_assoc, List.cons_append, List.nil_append] at reads ⊢
  exact reads

/-- A statement with a blank in its amount begins with a head, whose parenthesis is closed. -/
theorem IsStatement.head {amount content w : Text} (shape : IsStatement amount content w)
    {c : CodePoint} (mem : c ∈ amount) (blank : isBlank c = true) (rest : Text) :
    ∃ after, head (w ++ rest) = some ((), after) ∧ (.char ')' : CodePoint) ∈ after := by
  obtain ⟨isAmount, -, gap, row, isGap, blanks, rfl⟩ := shape
  cases isAmount with
  | literal free =>
      refine ⟨content ++ .char ')' :: rest, head_eq_some.mpr ⟨gap, _, row, isGap, free, blanks, ?_⟩,
        List.mem_append_right _ List.mem_cons_self⟩
      simp only [Text.enclosed, List.append_assoc, List.cons_append, List.nil_append]
  | token token =>
      rw [token.solid c mem] at blank
      cases blank

end Send

/-! ## Literals -/

namespace Monetary

theorem literal_eq_some {t rest : Text} {parts : Text × Option Text}
    (h : literal t = some (parts, rest)) :
    ∃ w, w ≠ [] ∧ t = w ++ rest ∧ ∃ c ∈ w, isBlank c = true := by
  obtain ⟨opening, bracketed, begun, named⟩ := Reader.bind_eq_some.mp h
  obtain ⟨asset, behind, read, later⟩ := Reader.bind_eq_some.mp named
  obtain ⟨⟨⟩, quantity, apart, numbered⟩ := Reader.bind_eq_some.mp later
  obtain ⟨amount, closed, counted, ended⟩ := Reader.bind_eq_some.mp numbered
  obtain ⟨closing, after, stopped, made⟩ := Reader.bind_eq_some.mp ended
  obtain rfl := (Prod.mk.inj (Option.some.inj made)).2
  obtain ⟨rfl, -⟩ := Reader.char_eq_some begun
  obtain ⟨rfl, -⟩ := Reader.char_eq_some stopped
  obtain ⟨gap, rfl, isGap⟩ := Text.gap_eq_some apart
  obtain ⟨numeral, rfl⟩ : ∃ numeral, quantity = numeral ++ closing :: after := by
    rcases Reader.or_eq_some counted with digits | all
    · obtain ⟨row, digits, -⟩ := Reader.map_eq_some digits
      exact ⟨row, Reader.many1_eq_some digits⟩
    · obtain ⟨⟨⟩, left, star, last⟩ := Reader.bind_eq_some.mp all
      obtain rfl := (Prod.mk.inj (Option.some.inj last)).2
      exact ⟨_, Reader.word_eq_some star⟩
  obtain ⟨c, row, rfl⟩ := List.exists_cons_of_ne_nil isGap.nonempty
  refine ⟨opening :: (asset ++ (c :: row ++ (numeral ++ [closing]))), List.cons_ne_nil _ _, ?_, c,
    by simp, isGap.blank c List.mem_cons_self⟩
  rw [Reader.many1_eq_some read]
  simp only [List.append_assoc, List.cons_append, List.nil_append]

/-- What can be read as a literal has a blank. -/
theorem blank_of_ofText {t : Text} {m : Monetary} (h : ofText t = .ok m) :
    ∃ c ∈ t, isBlank c = true := by
  have takes : Reader.TakesFront literal := fun read => by
    obtain ⟨w, some_, split, -⟩ := literal_eq_some read
    exact ⟨w, some_, split⟩
  unfold ofText at h
  split at h
  · next found first =>
      obtain ⟨front, rest, rfl, -, -, read⟩ :=
        Search.all_sound takes (List.mem_of_mem_head? first)
      obtain ⟨w, -, split, c, mem, blank⟩ := literal_eq_some read
      obtain rfl := List.append_cancel_right split
      exact ⟨c, List.mem_append_right _ (List.mem_append_left _ mem), blank⟩
  · cases h

end Monetary

namespace Send

theorem blank_of_ofParts {parts : Parts} {send : Send} (h : ofParts parts = .ok send) :
    ∃ c ∈ parts.amount, isBlank c = true :=
  Monetary.blank_of_ofText (clauses_of_ofParts h).1

/-- A statement that is read as a send begins with a head, whose parenthesis is closed. -/
theorem head_of_ofText {w rest : Text} {parts : Parts} {send : Send}
    (read : statement (w ++ rest) = some (parts, rest)) (h : ofText w = .ok send) :
    ∃ after, head (w ++ rest) = some ((), after) ∧ (.char ')' : CodePoint) ∈ after := by
  obtain ⟨w', split, shape⟩ := statement_eq_some read
  obtain rfl := List.append_cancel_right split
  -- The statement begins where its own text begins, so that this is where the text is read.
  have reads : (statement w).isSome = true := by
    have alone := shape.reads []
    rwa [List.append_nil] at alone
  obtain ⟨first, listed, place⟩ := @Search.all_complete _
    (Search.atWordStart isWordChar) _ statement_takesFront [] w rfl reads
  unfold ofText at h
  split at h
  · next found initial =>
      obtain ⟨front, behind, split, start, -, own⟩ :=
        Search.all_sound statement_takesFront (List.mem_of_mem_head? initial)
      have none : front = [] := by
        have least := Search.start_le_of_head initial listed
        rcases place with here | ⟨before, -⟩
        · rw [here, start] at least
          exact List.eq_nil_of_length_eq_zero (Nat.le_zero.mp least)
        · cases before
      rw [none, List.nil_append] at split
      obtain ⟨c, mem, blank⟩ := blank_of_ofParts h
      obtain ⟨own_text, taken, own_shape⟩ := statement_eq_some own
      obtain rfl := List.append_cancel_right taken
      obtain ⟨after, begun, closed⟩ := own_shape.head mem blank behind
      rw [← split] at begun
      exact ⟨after ++ rest, head_append begun rest, List.mem_append_left rest closed⟩
  · cases h

end Send

namespace Script

/-! ## Scripts with which nothing is wrong -/

theorem isValid_iff (t : Text) :
    isValid t = true ↔ (ofText t).failures = [] ∧ (ofText t).sends ≠ [] ∧
      ∀ send ∈ (ofText t).sends, send.sources ≠ [] ∧ send.destinations ≠ [] := by
  have complete (send : Send) :
      (if send.sources.isEmpty then [("Send statement has no source" : Text)] else []) ++
          (if send.destinations.isEmpty then [("Send statement has no destination" : Text)]
            else []) = [] ↔ send.sources ≠ [] ∧ send.destinations ≠ [] := by
    cases send.sources <;> cases send.destinations <;> simp
  unfold isValid problems
  dsimp only
  rw [List.isEmpty_iff, List.append_eq_nil_iff, List.append_eq_nil_iff, List.map_eq_nil_iff,
    List.flatMap_eq_nil_iff, and_assoc]
  simp only [complete]
  cases (ofText t).failures <;> cases (ofText t).sends <;> simp

/-- In a script without failures the sends are read off the statements one by one. -/
theorem sends_of_statements {t : Text} (h : (ofText t).failures = []) :
    List.Forall₂ (fun found send => Send.ofText found.text = .ok send) (Send.statements t)
      (ofText t).sends := by
  unfold ofText at h ⊢
  dsimp only at h ⊢
  generalize Send.statements t = statements at h ⊢
  induction statements with
  | nil => exact List.Forall₂.nil
  | cons found rest ih =>
      cases read : Send.ofText found.text with
      | ok send =>
          have here : readStatement found = .inr send := by rw [readStatement, read]
          rw [List.map_cons, here] at h ⊢
          exact List.Forall₂.cons read (ih h)
      | error cause =>
          have here : ∃ failure, readStatement found = .inl failure := by
            rw [readStatement, read]
            exact ⟨_, rfl⟩
          obtain ⟨failure, here⟩ := here
          rw [List.map_cons, here] at h
          cases h

theorem read_of_mem {t : Text} (h : (ofText t).failures = []) {found : Found Send.Parts}
    (mem : found ∈ Send.statements t) : ∃ send, Send.ofText found.text = .ok send := by
  have paired := sends_of_statements h
  generalize Send.statements t = statements at paired mem
  generalize (ofText t).sends = sends at paired
  induction paired with
  | nil => cases mem
  | cons here _ ih =>
      rcases List.mem_cons.mp mem with rfl | later
      · exact ⟨_, here⟩
      · exact ih later

/-! ## Heads -/

/-- The places of a script at which a head begins at the start of a word. -/
def heads (t : Text) : List Nat :=
  (List.range t.length).filter fun place =>
    Search.atWordStart isWordChar (t.take place).getLast? && (Send.head (t.drop place)).isSome

/-- Whether a head stands within the text of a statement, or its parenthesis is not closed. -/
def IsLost (t : Text) (place : Nat) : Prop :=
  (∃ statement ∈ Send.statements t, statement.covers place) ∨
    ∀ body, Send.head (t.drop place) = some ((), body) → (.char ')' : CodePoint) ∉ body

theorem mem_heads {t : Text} {place : Nat} :
    place ∈ heads t ↔ ∃ front back, t = front ++ back ∧ front.length = place ∧
      Search.atWordStart isWordChar front.getLast? = true ∧ (Send.head back).isSome = true := by
  unfold heads
  rw [List.mem_filter, List.mem_range, Bool.and_eq_true]
  constructor
  · rintro ⟨inside, isOpen, begun⟩
    exact ⟨t.take place, t.drop place, (List.take_append_drop place t).symm,
      List.length_take_of_le (Nat.le_of_lt inside), isOpen, begun⟩
  · rintro ⟨front, back, rfl, rfl, isOpen, begun⟩
    have some_ : back ≠ [] := by
      rintro rfl
      cases begun
    rw [List.take_left, List.drop_left, List.length_append]
    have := List.length_pos_iff.mpr some_
    exact ⟨by omega, isOpen, begun⟩

/-- A head that is not lost begins a statement. -/
theorem begins_of_not_lost {t : Text} {place : Nat} (isHead : place ∈ heads t)
    (kept : ¬IsLost t place) : ∃ found ∈ Send.statements t, found.start = place := by
  obtain ⟨front, back, rfl, rfl, isOpen, begun⟩ := mem_heads.mp isHead
  obtain ⟨uncovered, closed⟩ := not_or.mp kept
  rw [List.drop_left] at closed
  push Not at closed uncovered
  obtain ⟨body, opened, closing⟩ := closed
  obtain ⟨found, mem, here | within⟩ := @Search.all_complete _
    (Search.atWordStart isWordChar) _ Send.statement_takesFront front back isOpen
    (Send.statement_of_head opened closing)
  · exact ⟨found, mem, here⟩
  · exact absurd within (uncovered found mem)

/-- A statement that is read as a send begins with a head that is not lost. -/
theorem head_of_send {t : Text} {found : Found Send.Parts} (mem : found ∈ Send.statements t)
    {send : Send} (h : Send.ofText found.text = .ok send) :
    found.start ∈ heads t ∧ ¬IsLost t found.start := by
  obtain ⟨front, rest, split, start, isOpen, read⟩ :=
    Search.all_sound Send.statement_takesFront mem
  obtain ⟨body, begun, closed⟩ := Send.head_of_ofText read h
  constructor
  · refine mem_heads.mpr ⟨front, _, split, start.symm, isOpen, ?_⟩
    rw [begun]
    rfl
  · rintro (⟨other, listed, before, inside⟩ | open_)
    · have different : other ≠ found := by
        rintro rfl
        exact Nat.lt_irrefl _ before
      have wide := Search.start_lt_stop Send.statement_takesFront mem
      have apart := Search.apart_of_ne listed mem different
      omega
    · rw [split, start, List.drop_left] at open_
      exact open_ body begun closed

/-- In a script with which nothing is wrong the statements are read as the sends, one by
one, each of which has a source and a destination; they begin at just those heads that are
not lost, so that there are as many sends as heads just when no head is lost. -/
theorem sends_at_heads (t : Text) (valid : isValid t = true) :
    let statements := Send.statements t
    let script := ofText t
    List.Forall₂ (fun found send => Send.ofText found.text = .ok send) statements script.sends ∧
      (∀ send ∈ script.sends, send.sources ≠ [] ∧ send.destinations ≠ []) ∧
      (statements.map Found.start).Pairwise (· < ·) ∧
      (∀ place, place ∈ statements.map Found.start ↔ place ∈ heads t ∧ ¬IsLost t place) ∧
      ((heads t).length = script.sends.length ↔ ∀ place ∈ heads t, ¬IsLost t place) := by
  intro statements script
  obtain ⟨unfailed, -, complete⟩ := (isValid_iff t).mp valid
  have paired : List.Forall₂ (fun found send => Send.ofText found.text = .ok send) statements
      script.sends := sends_of_statements unfailed
  have placed : ∀ place, place ∈ statements.map Found.start ↔
      place ∈ heads t ∧ ¬IsLost t place := by
    intro place
    rw [List.mem_map]
    constructor
    · rintro ⟨found, mem, rfl⟩
      obtain ⟨send, made⟩ := read_of_mem unfailed mem
      exact head_of_send mem made
    · rintro ⟨isHead, kept⟩
      exact begins_of_not_lost isHead kept
  have ordered : (statements.map Found.start).Pairwise (· < ·) :=
    Search.pairwise_starts Send.statement_takesFront
  refine ⟨paired, complete, ordered, placed, ?_⟩
  have count : script.sends.length = (statements.map Found.start).length := by
    rw [List.length_map, paired.length_eq]
  have distinct : (heads t).Nodup := List.nodup_range.filter _
  have part : (statements.map Found.start).Subperm (heads t) :=
    List.Nodup.subperm (ordered.imp Nat.ne_of_lt) fun place mem => ((placed place).mp mem).1
  rw [count]
  constructor
  · intro same place isHead
    have all := (part.perm_of_length_le same.le).symm.subset isHead
    exact ((placed place).mp all).2
  · intro kept
    have all : (heads t).Subperm (statements.map Found.start) :=
      distinct.subperm fun place isHead => (placed place).mpr ⟨isHead, kept place isHead⟩
    exact Nat.le_antisymm all.length_le part.length_le

/-- Two sends, one after the other. -/
def twoSends : Text :=
  "send [USD/2 5] ( source = @world destination = @a )\nsend [USD/2 7] ( source = @a destination = @b )"

/-- In a script of two sends no head is lost. -/
theorem sends_at_heads_of_twoSends :
    isValid twoSends = true ∧ ∀ place ∈ heads twoSends, ¬IsLost twoSends place := by
  have valid : isValid twoSends = true := by decide +kernel
  obtain ⟨-, -, -, -, counted⟩ := sends_at_heads twoSends valid
  exact ⟨valid, counted.mp (by decide +kernel)⟩

/-- Two sends of which the first is not closed. -/
def unclosed : Text :=
  "send [USD/2 5] ( source = @world destination = @a\nsend [USD/2 7] ( source = @world destination = @b )"

/-- Nothing is found wrong with a script that loses a head: the first statement, which is not
closed, goes on to the end of the second. -/
theorem head_lost :
    ¬∀ t : Text, isValid t = true → (heads t).length = (ofText t).sends.length := by
  intro law
  have valid : isValid unclosed = true := by decide +kernel
  have two : (heads unclosed).length = 2 := by decide +kernel
  have one : (ofText unclosed).sends.length = 1 := by decide +kernel
  have same := law unclosed valid
  rw [two, one] at same
  cases same

end Script

end DoubleEntry
