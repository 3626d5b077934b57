import DoubleEntry.Proofs.Script.Recognition
import DoubleEntry.Proofs.Script.Shares
import DoubleEntry.Proofs.Sorting

/-!
# Diagrams of payments

For a script of payments a preview draws a movement for each account of each payment, in
order. It draws what the sends that are read from the script say, unless an account stands
right behind a portion, without the word between: the portion is not drawn then.
-/

namespace DoubleEntry

open Text (IsRow)

/-! ## What there is to draw -/

/-- The movement from a source to a destination, unless the share is kept. A portion is
written in front of the literal. -/
def Destination.drawn (literal source : Text) (destination : Destination) : List PreviewPosting :=
  destination.named.map fun (portion, address) =>
    { amount := match portion with
        | some portion => portion ++ " of " ++ literal
        | none => literal
      source := Address.bare source
      destination := Address.bare address }

/-- The movements of a send, given its literal without the brackets. -/
def Send.drawn (literal : Text) (send : Send) : List PreviewPosting :=
  send.sources.flatMap fun source =>
    send.destinations.flatMap (Destination.drawn literal source.account)

/-- The movements of a payment as a preview sees it. -/
def Payment.seen (payment : Payment) : List PreviewPosting :=
  payment.target.entries.flatMap fun entry => entry.seen.drawn payment.literal payment.source

/-- Whether an account stands right behind a portion. -/
def Entry.IsAbridged : Entry → Prop
  | .share _ (.account _) => True
  | _ => False

/-! ## Drawing what is found -/

namespace Preview

section Drawings

variable {α : Type} {r : Reader α} {draw : α → List PreviewPosting}

/-- What is drawn of the values that a reader finds, with their places. -/
def drawings (r : Reader α) (draw : α → List PreviewPosting) (t : Text) :
    List (Nat × PreviewPosting) :=
  (Search.all Search.anywhere r t).flatMap fun found =>
    (draw found.value).map fun p => (found.start, p)

/-- The same drawing, further behind. -/
def further (offset : Nat) (drawing : Nat × PreviewPosting) : Nat × PreviewPosting :=
  (offset + drawing.1, drawing.2)

theorem drawings_shift (offset : Nat) (found : List (Found α)) :
    ((found.map (Found.shift offset)).flatMap fun found =>
        (draw found.value).map fun p => (found.start, p)) =
      (found.flatMap fun found => (draw found.value).map fun p => (found.start, p)).map
        (further offset) := by
  rw [List.flatMap_map, List.map_flatMap]
  simp only [List.map_map]
  rfl

variable (needs : ∀ t, sendHead t = none → r t = none)
include needs

theorem drawings_silent {t after : Text} (silent : IsSilent t after) :
    drawings r draw (t ++ after) = (drawings r draw after).map (further t.length) := by
  rw [drawings, Search.all_append (silent.passes needs none) rfl, drawings_shift]
  rfl

theorem drawings_nil {row : Text} (blank : IsRow row) : drawings r draw row = [] := by
  have none : drawings r draw [] = [] := by
    rw [drawings, Search.all, Search.parts]
    rfl
  rw [← List.append_nil row, drawings_silent needs (isSilent_row blank []), none]
  rfl

/-- What is drawn of a payment at the beginning of a text: all that is read off it, or
nothing. -/
inductive Draws (r : Reader α) (draw : α → List PreviewPosting) (t after : Text) :
    List PreviewPosting → Prop
  | read {value : α} (read : r (t ++ after) = some (value, after)) : Draws r draw t after (draw value)
  | none (fails : r (t ++ after) = none) : Draws r draw t after []

/-- What is drawn of a payment comes first. -/
theorem drawings_payment {layout : Layout} {payment : Payment} (fits : layout.Fits payment)
    {after : Text} {here : List PreviewPosting}
    (draws : Draws r draw (layout.text payment) after here) :
    drawings r draw (layout.text payment ++ after) =
      here.map (fun p => (0, p)) ++
        (drawings r draw after).map (further (layout.text payment).length) := by
  cases draws with
  | @read value read =>
      have found := @Search.all_read _ Search.anywhere r _ [] after value rfl
        (layout.text_nonempty payment) read rfl rfl
      rw [List.nil_append, List.append_nil] at found
      rw [drawings, found, List.flatMap_cons, drawings_shift]
      rfl
  | none fails =>
      obtain ⟨tail, split, silent⟩ := exists_isSilent fits after
      have passed : Search.beginsIn Search.anywhere r none (layout.text payment) after = false := by
        rw [split] at fails ⊢
        rw [Search.beginsIn, fails, silent.passes needs]
        rfl
      rw [drawings, Search.all_append passed rfl, drawings_shift]
      rfl

end Drawings

theorem simpleSend_needs (t : Text) (fails : sendHead t = none) : simpleSend t = none :=
  Reader.bind_none (Reader.bind_none fails _) _

theorem splitSend_needs (t : Text) (fails : sendHead t = none) : splitSend t = none :=
  Reader.bind_none (Reader.bind_none fails _) _

theorem looseSend_needs (t : Text) (fails : sendHead t = none) : looseSend t = none :=
  Reader.bind_none fails _

/-- The movement of a value that was read, on its own. -/
def single (found : Text × Text × Text) : List PreviewPosting := [posting found]

/-- What is drawn of sends with one source, with the places, before it is sorted. -/
def strict (t : Text) : List (Nat × PreviewPosting) :=
  drawings simpleSend single t ++ drawings splitSend splitPostings t

theorem postings_eq (script : Text) :
    postings script =
      (sortedBy Prod.fst (if (strict script).isEmpty then drawings looseSend single script
        else strict script)).map Prod.snd := by
  have alone (r : Reader (Text × Text × Text)) :
      (Search.all Search.anywhere r script).map (fun found => (found.start, posting found.value)) =
        drawings r single script := by
    rw [List.map_eq_flatMap]
    rfl
  rw [postings, strict, ← alone, ← alone]
  rfl

/-! ## Payments -/

theorem splitPostings_eq {literal source inner : Text} {entries : List Entry}
    (plain : literal.strip = literal) (listed : Entry.Listed entries inner) :
    splitPostings (literal, source, inner) =
      entries.flatMap fun entry => entry.seen.drawn literal source := by
  have values : (Search.all Search.anywhere splitItem inner).map Found.value = found inner := by
    rw [found, ← Search.map_all, List.map_map]
    rfl
  have drawn := found_listed listed
  rw [← values] at drawn
  have each := congrArg (List.map fun ((portion, address) : Option Text × Text) =>
    PreviewPosting.mk (match portion with
      | some portion => portion ++ " of " ++ literal
      | none => literal) (Address.bare source) (Address.bare address)) drawn
  rw [List.map_map, List.map_flatMap] at each
  rw [splitPostings, plain]
  exact each

/-- A payment is drawn as it is seen, by one of the two ways to recognise it. -/
theorem exists_draws {layout : Layout} {payment : Payment} (fits : layout.Fits payment)
    (after : Text) : ∃ first second, first ++ second = payment.seen ∧
      Draws simpleSend single (layout.text payment) after first ∧
      Draws splitSend splitPostings (layout.text payment) after second := by
  have plain := fits.literal.strip_eq_self
  cases fits.recognized after with
  | @account address target simple split =>
      refine ⟨_, _, ?_, .read simple, .none split⟩
      rw [Payment.seen, target, single, posting, plain]
      rfl
  | @block entries inner target listed simple split =>
      refine ⟨_, _, ?_, .none simple, .read split⟩
      rw [splitPostings_eq plain listed, Payment.seen, target]
      rfl
  | empty target simple split =>
      refine ⟨_, _, ?_, .none simple, .none split⟩
      rw [Payment.seen, target]
      rfl

theorem strict_silent {t after : Text} (silent : IsSilent t after) :
    strict (t ++ after) = (strict after).map (further t.length) := by
  rw [strict, drawings_silent simpleSend_needs silent, drawings_silent splitSend_needs silent,
    ← List.map_append]
  rfl

theorem sortedBy_further (offset : Nat) (drawn : List (Nat × PreviewPosting)) :
    (sortedBy Prod.fst (drawn.map (further offset))).map Prod.snd =
      (sortedBy Prod.fst drawn).map Prod.snd := by
  have moved := @sortedBy_map _ _ Prod.fst (further offset) Prod.fst offset (fun _ => rfl) drawn
  rw [moved, List.map_map]
  rfl

/-- The movements of a payment in front come first. -/
theorem sorted_payment {layout : Layout} {payment : Payment} (fits : layout.Fits payment)
    (after : Text) :
    (sortedBy Prod.fst (strict (layout.text payment ++ after))).map Prod.snd =
      payment.seen ++ (sortedBy Prod.fst (strict after)).map Prod.snd := by
  obtain ⟨first, second, together, simple, split⟩ := exists_draws fits after
  have long : 0 < (layout.text payment).length :=
    List.length_pos_iff.mpr (layout.text_nonempty payment)
  generalize size : (layout.text payment).length = offset at long
  have zero (here : List PreviewPosting) : ∀ x ∈ here.map fun p => (0, p), x.1 = 0 := by
    simp
  have behind (drawn : List (Nat × PreviewPosting)) :
      ∀ x ∈ drawn.map (further offset), 0 < x.1 := by
    intro x mem
    obtain ⟨drawing, -, rfl⟩ := List.mem_map.mp mem
    exact Nat.add_pos_left long _
  rw [strict, drawings_payment simpleSend_needs fits simple,
    drawings_payment splitSend_needs fits split, size, List.append_assoc]
  have firsts := @sortedBy_append _ Prod.fst [] _ ((drawings simpleSend single after).map
    (further offset) ++ (second.map (fun p => (0, p)) ++
      (drawings splitSend splitPostings after).map (further offset))) 0 (zero first) nofun
        fun _ _ => Nat.zero_le _
  have seconds := @sortedBy_append _ Prod.fst _ _ _ 0 (zero second)
    (behind (drawings simpleSend single after)) fun y (_ : y ∈ (drawings splitSend splitPostings
      after).map (further offset)) => Nat.zero_le _
  have plain (here : List PreviewPosting) : (here.map fun p => (0, p)).map Prod.snd = here := by
    rw [List.map_map]
    exact List.map_id here
  rw [List.nil_append, List.nil_append] at firsts
  rw [firsts, seconds, ← List.map_append, List.map_append, List.map_append, plain, plain,
    sortedBy_further, ← together, List.append_assoc, strict]

/-- The movements of a script of payments are those of the payments, in order. -/
theorem sorted_listed {payments : List Payment} {script : Text}
    (listed : Payment.Listed payments script) :
    (sortedBy Prod.fst (strict script)).map Prod.snd = payments.flatMap Payment.seen := by
  induction listed with
  | nil blank =>
      have none : sortedBy Prod.fst ([] : List (Nat × PreviewPosting)) = [] :=
        sortedBy_eq_nil.mpr rfl
      rw [strict, drawings_nil simpleSend_needs blank, drawings_nil splitSend_needs blank,
        List.append_nil, none]
      rfl
  | @cons payment rest layout row later blank fits others ih =>
      rw [strict_silent (isSilent_row blank _), sortedBy_further, sorted_payment fits, ih,
        List.flatMap_cons]

end Preview

/-! ## Payments that only keep -/

theorem Entry.Spelled.unnamed {entry : Entry} {w : Text} (spelled : entry.Spelled w)
    (kept : entry.receiver = .kept) : (.char '@' : CodePoint) ∉ w := by
  have solid : isBlank (.char '@') = false := by decide
  have portion {p : Text} (share : Script.IsPortion p) : (.char '@' : CodePoint) ∉ p :=
    share.free (by decide +kernel) (by decide)
  have token : (.char '@' : CodePoint) ∉ Destination.receiverToken entry.receiver := by
    rw [kept]
    decide
  cases spelled with
  | whole named => exact token
  | share share apart named =>
      simp only [List.mem_append, not_or]
      exact ⟨portion share, Text.IsRow.free apart.blank solid, token⟩
  | shareTo share apart final named =>
      simp only [List.mem_append, not_or]
      exact ⟨portion share, Text.IsRow.free apart.blank solid, by decide,
        Text.IsRow.free final.blank solid, token⟩

theorem Entry.Listed.unnamed {entries : List Entry} {inner : Text} (listed : Listed entries inner)
    (kept : ∀ entry ∈ entries, entry.receiver = .kept) : (.char '@' : CodePoint) ∉ inner := by
  induction listed with
  | nil blank => exact Text.IsRow.free blank (by decide)
  | cons blank spelled ends others ih =>
      obtain ⟨here, later⟩ := List.forall_mem_cons.mp kept
      simp only [List.mem_append, not_or]
      exact ⟨Text.IsRow.free blank (by decide), spelled.unnamed here, ih later⟩

theorem Target.Spelled.unnamed {target : Target} {t : Text} (spelled : target.Spelled t)
    (kept : ∀ entry ∈ target.entries, entry.receiver = .kept) : (.char '@' : CodePoint) ∉ t := by
  cases spelled with
  | account address => cases kept _ List.mem_cons_self
  | block listed =>
      have braces : (.char '@' : CodePoint) ≠ .char '{' ∧ (.char '@' : CodePoint) ≠ .char '}' := by
        decide
      simp [Text.enclosed, listed.unnamed kept, braces]

theorem Entry.seen_receiver (entry : Entry) : entry.seen.receiver = entry.receiver := by
  cases entry <;> rfl

/-- A payment of which nothing is seen keeps all its shares. -/
theorem Payment.kept_of_seen {payment : Payment} (none : payment.seen = []) :
    ∀ entry ∈ payment.target.entries, entry.receiver = .kept := by
  intro entry mem
  have here := List.flatMap_eq_nil_iff.mp none entry mem
  rw [Destination.drawn, List.map_eq_nil_iff, Destination.named, entry.seen_receiver] at here
  cases given : entry.receiver with
  | kept => rfl
  | account address =>
      rw [given] at here
      cases here

namespace Preview

/-- Where only shares are kept the fallback finds nothing either. -/
theorem loose_listed {payments : List Payment} {script : Text}
    (listed : Payment.Listed payments script) (none : ∀ payment ∈ payments, payment.seen = []) :
    drawings looseSend single script = [] := by
  induction listed with
  | nil blank => exact drawings_nil looseSend_needs blank
  | @cons payment rest layout row later blank fits others ih =>
      obtain ⟨here, later⟩ := List.forall_mem_cons.mp none
      have unnamed := fits.target.unnamed (Payment.kept_of_seen here)
      rw [drawings_silent looseSend_needs (isSilent_row blank _),
        drawings_payment looseSend_needs fits (.none (fits.looseSend_none unnamed)), ih later]
      rfl

/-- A preview draws the payments of a script as they are seen, in order. -/
theorem postings_listed {payments : List Payment} {script : Text}
    (listed : Payment.Listed payments script) :
    postings script = payments.flatMap Payment.seen := by
  have sorted := sorted_listed listed
  rw [postings_eq]
  by_cases nothing : strict script = []
  · have all : payments.flatMap Payment.seen = [] := by
      rw [← sorted, sortedBy_eq_nil.mpr nothing]
      rfl
    have loose := loose_listed listed (List.flatMap_eq_nil_iff.mp all)
    rw [nothing, List.isEmpty_nil, if_pos rfl, loose, all, sortedBy_eq_nil.mpr rfl]
    rfl
  · rw [if_neg (mt List.isEmpty_iff.mp nothing), sorted]

end Preview

/-! ## What the sends say -/

/-- The movements of a payment as its send tells them. -/
def Payment.told (payment : Payment) : List PreviewPosting :=
  payment.target.destinations.flatMap (Destination.drawn payment.literal payment.source)

theorem Send.drawn_eq {send : Send} {payment : Payment}
    (source : send.sources.map Source.account = [payment.source])
    (destinations : send.destinations = payment.target.destinations) :
    send.drawn payment.literal = payment.told := by
  have split : send.drawn payment.literal = (send.sources.map Source.account).flatMap fun account =>
      send.destinations.flatMap (Destination.drawn payment.literal account) := by
    rw [List.flatMap_map]
    rfl
  rw [split, source, destinations, List.flatMap_singleton]
  rfl

theorem Destination.named_length {destination other : Destination}
    (same : destination.receiver = other.receiver) :
    destination.named.length = other.named.length := by
  rw [named, named, same]
  cases other.receiver <;> rfl

/-- Two ways to make a row of lists of the same lengths agree just when they agree on each. -/
theorem flatMap_eq_flatMap_iff {α β : Type} {f g : α → List β} {items : List α}
    (lengths : ∀ item ∈ items, (f item).length = (g item).length) :
    items.flatMap f = items.flatMap g ↔ ∀ item ∈ items, f item = g item := by
  induction items with
  | nil => simp
  | cons item rest ih =>
      obtain ⟨here, later⟩ := List.forall_mem_cons.mp lengths
      rw [List.flatMap_cons, List.flatMap_cons, List.forall_mem_cons, ← ih later]
      constructor
      · exact fun same => List.append_inj same here
      · rintro ⟨first, others⟩
        rw [first, others]

theorem Entry.drawn_length (entry : Entry) (literal source : Text) :
    (entry.seen.drawn literal source).length = (entry.destination.drawn literal source).length := by
  rw [Destination.drawn, Destination.drawn, List.length_map, List.length_map]
  refine Destination.named_length ?_
  cases entry <;> rfl

/-- An entry is drawn with its portion unless an account stands right behind it. -/
theorem Entry.drawn_eq_iff (entry : Entry) (literal source : Text) :
    entry.seen.drawn literal source = entry.destination.drawn literal source ↔
      ¬entry.IsAbridged := by
  cases entry with
  | whole receiver => exact iff_of_true rfl id
  | shareTo portion receiver => exact iff_of_true rfl id
  | share portion receiver =>
      cases receiver with
      | kept => exact iff_of_true rfl id
      | account address =>
          refine iff_of_false (fun same => ?_) (not_not.mpr trivial)
          have amounts : literal = portion ++ " of " ++ literal :=
            congrArg PreviewPosting.amount (List.cons.inj same).1
          have lengths := congrArg List.length amounts
          have between : (" of " : Text).length = 4 := rfl
          rw [List.length_append, List.length_append, between] at lengths
          omega

theorem Payment.seen_eq_told_iff (payment : Payment) :
    payment.seen = payment.told ↔ ∀ entry ∈ payment.target.entries, ¬entry.IsAbridged := by
  rw [told, Target.destinations, List.flatMap_map, seen,
    flatMap_eq_flatMap_iff fun entry _ => entry.drawn_length _ _]
  simp only [Entry.drawn_eq_iff]

theorem Payment.seen_length (payment : Payment) : payment.seen.length = payment.told.length := by
  rw [told, Target.destinations, List.flatMap_map, seen, List.length_flatMap, List.length_flatMap]
  simp only [Entry.drawn_length]

/-- The sends of a script of payments tell the movements of the payments. -/
theorem Payment.told_sends {payments : List Payment} {sends : List Send}
    (read : List.Forall₂ (fun payment send => send.sources.map Source.account = [payment.source] ∧
      send.destinations = payment.target.destinations) payments sends) :
    (List.zipWith (fun payment send => send.drawn payment.literal) payments sends).flatten =
      payments.flatMap Payment.told := by
  induction read with
  | nil => rfl
  | cons here others ih =>
      rw [List.zipWith_cons_cons, List.flatten_cons, ih, List.flatMap_cons,
        Send.drawn_eq here.1 here.2]

/-- The sends of a script of payments, none of which fails, are read off it one by one. What is
drawn of the script are the payments as they are seen, in order; and this is what the sends
say just when no account stands right behind a portion, without the word between. -/
theorem Preview.postings_of_payments {payments : List Payment} {script : Text}
    (listed : Payment.Listed payments script) (unfailed : (Script.ofText script).failures = []) :
    let sends := (Script.ofText script).sends
    List.Forall₂ (fun payment send => send.sources.map Source.account = [payment.source] ∧
        send.destinations = payment.target.destinations) payments sends ∧
      Preview.postings script = payments.flatMap Payment.seen ∧
      (Preview.postings script =
          (List.zipWith (fun payment send => send.drawn payment.literal) payments sends).flatten ↔
        ∀ payment ∈ payments, ∀ entry ∈ payment.target.entries, ¬entry.IsAbridged) := by
  intro sends
  have read := listed.sends unfailed
  have drawn := Preview.postings_listed listed
  refine ⟨read, drawn, ?_⟩
  rw [drawn, Payment.told_sends read, flatMap_eq_flatMap_iff fun payment _ => payment.seen_length]
  simp only [Payment.seen_eq_told_iff]

/-! ## Two payments -/

/-- A payment from one account to the entries of a block. -/
def Payment.shared (entries : List Entry) : Payment where
  literal := ("USD/2" : Text) ++ (" " ++ "100")
  source := "@a"
  target := .block entries

/-- Single spaces around everything. -/
def Layout.spaced (grant target : Text) : Layout where
  behindSend := " "
  behindLiteral := " "
  beforeSource := " "
  beforeSourceSign := " "
  behindSourceSign := " "
  grant := grant
  beforeDestination := " "
  beforeDestinationSign := " "
  behindDestinationSign := " "
  target := target
  atEnd := " "

theorem Text.isGap_space : Text.IsGap " " := ⟨by decide, by decide⟩

theorem Script.isPortion_half : IsPortion (("50" : Text) ++ "%") :=
  .percentage (by decide) (by decide +kernel)

theorem Text.ends_space (after : Text) :
    Reader.Ends Script.isAddressChar ((" " : Text) ++ after) :=
  Reader.ends_cons (by decide +kernel) after

theorem Payment.shared_listed {entries : List Entry} {grant inner : Text}
    (granted : Source.IsGrant grant) (listed : Entry.Listed entries inner) (script : Text)
    (written : script =
      (Layout.spaced grant (Text.enclosed '{' '}' inner)).text (Payment.shared entries)) :
    Payment.Listed [Payment.shared entries] script := by
  have space := Text.isGap_space
  have literal : Monetary.IsLiteral (("USD/2" : Text) ++ (" " ++ "100")) :=
    .intro (by decide) (by decide) space (.inr ⟨by decide, by decide +kernel⟩)
  have source : Script.IsAddress "@a" := by decide +kernel
  have fits : (Layout.spaced grant (Text.enclosed '{' '}' inner)).Fits (Payment.shared entries) :=
    ⟨literal, source, .block listed, granted, space, space.blank, space.blank, space.blank,
      space.blank, space, space.blank, space.blank, space.blank⟩
  have empty : Text.IsRow [] := nofun
  have whole := Payment.Listed.cons empty fits (.nil empty)
  rwa [List.nil_append, List.append_nil, ← written] at whole

/-- Half of a payment with an overdraft goes to an account while the rest is kept. -/
def halfKept : Text :=
  "send [USD/2 100] ( source = @a allowing unbounded overdraft destination = " ++
    "\x7b 50% to @b remaining kept \x7d )"

theorem Preview.postings_of_payments_of_halfKept :
    ∃ payments, Payment.Listed payments halfKept ∧ (Script.ofText halfKept).failures = [] ∧
      Preview.postings halfKept =
        (List.zipWith (fun payment send => send.drawn payment.literal) payments
          (Script.ofText halfKept).sends).flatten := by
  have space := Text.isGap_space
  have named : Entry.IsNamed (.account "@b") := by
    rintro _ ⟨⟩
    decide +kernel
  have entries : Entry.Listed
      [.shareTo (("50" : Text) ++ "%") (.account "@b"), .share "remaining" .kept] _ :=
    .cons space.blank (.shareTo Script.isPortion_half space space named)
      (fun _ _ => Text.ends_space _)
      (.cons space.blank (.share .remaining space nofun) nofun (.nil space.blank))
  have granted : Source.IsGrant _ := .granted space space (.unbounded space) .none
  have listed := Payment.shared_listed granted entries halfKept (by decide +kernel)
  have unfailed : (Script.ofText halfKept).failures = [] := by
    rw [← List.length_eq_zero_iff]
    decide +kernel
  obtain ⟨-, -, agrees⟩ := Preview.postings_of_payments listed unfailed
  refine ⟨_, listed, unfailed, agrees.mpr ?_⟩
  exact List.forall_mem_singleton.mpr
    (List.forall_mem_cons.mpr ⟨id, List.forall_mem_singleton.mpr id⟩)

/-- Half of a payment goes to an account named right behind the portion. -/
def halfAbridged : Text :=
  "send [USD/2 100] ( source = @a destination = \x7b 50% @b remaining to @c \x7d )"

/-- A preview draws all of a payment to an account that takes only half of it. -/
theorem Preview.portion_not_drawn :
    ¬∀ (payments : List Payment) (script : Text), Payment.Listed payments script →
      (Script.ofText script).failures = [] → Preview.postings script =
        (List.zipWith (fun payment send => send.drawn payment.literal) payments
          (Script.ofText script).sends).flatten := by
  intro law
  have space := Text.isGap_space
  have named (address : Text) (spelled : Script.IsAddress address) :
      Entry.IsNamed (.account address) := by
    rintro _ ⟨⟩
    exact spelled
  have entries : Entry.Listed [.share (("50" : Text) ++ "%") (.account "@b"),
      .shareTo "remaining" (.account "@c")] ((" " : Text) ++ (_ ++ (" " ++ (_ ++ " ")))) :=
    .cons space.blank (.share Script.isPortion_half space (named "@b" (by decide +kernel)))
      (fun _ _ => Text.ends_space _) (.cons space.blank
        (.shareTo .remaining space space (named "@c" (by decide +kernel)))
          (fun _ _ => Text.ends_space []) (.nil space.blank))
  have listed := Payment.shared_listed .none entries halfAbridged (by decide +kernel)
  have unfailed : (Script.ofText halfAbridged).failures = [] := by
    rw [← List.length_eq_zero_iff]
    decide +kernel
  have same := law _ halfAbridged listed unfailed
  rw [Preview.postings_listed listed, Payment.told_sends (listed.sends unfailed)] at same
  exact absurd same (by decide +kernel)

end DoubleEntry
