import DoubleEntry.Proofs.Faults
import DoubleEntry.Proofs.Script.Heads
import DoubleEntry.Proofs.Script.RoundTrip
import DoubleEntry.Proofs.Text.Delimited

/-!
# Statements one by one

A script is searched for statements, and the text of each statement is then read again on its
own. That finds the statement once more, with the same parts and whatever stood around it, so
that each is read once and ends among the sends or among the failures.
-/

namespace DoubleEntry

namespace Send

/-! ## Reading a statement on its own -/

/-- A bracketed literal and the body. -/
def literalAndBody : Reader Parts := do
  let inner ← Reader.enclosed '[' ']'
  let body ← body
  return { amount := inner.enclosed '[' ']', body }

/-- The fewest characters without a blank that a body follows, and the body. -/
def tokenAndBody : Reader Parts := do
  let (amount, body) ← Reader.upTo1 (fun c => !isBlank c) body
  return { amount, body }

theorem amountAndBody_eq : amountAndBody = (literalAndBody <|> tokenAndBody) := rfl

theorem isDelimited_body : body.IsDelimited := by
  intro t rest inner h
  obtain ⟨row, split, free, blank⟩ := body_eq_some h
  refine ⟨row ++ Text.enclosed '(' ')' inner, ?_, fun after => ?_⟩
  · rw [split, List.append_assoc]
  · rw [List.append_assoc]
    exact body_append blank free after

theorem isDelimited_literalAndBody : literalAndBody.IsDelimited :=
  (Reader.isDelimited_enclosed '[' ']').bind fun _ => isDelimited_body.bind fun _ =>
    Reader.isDelimited_pure _

/-- An amount and a body are read alike on their own. A literal cannot be read in the text alone
where it could not be read in front of the rest, so that the choice is the same. -/
theorem amountAndBody_alone {w rest : Text} {parts : Parts}
    (read : amountAndBody (w ++ rest) = some (parts, rest)) :
    amountAndBody w = some (parts, []) := by
  rw [amountAndBody_eq] at read ⊢
  cases literal : literalAndBody (w ++ rest) with
  | some result =>
      rw [Reader.or_some literal] at read
      obtain rfl := Option.some.inj read
      obtain ⟨own, split, alike⟩ := isDelimited_literalAndBody literal
      obtain rfl := List.append_cancel_right split
      have alone := alike []
      rw [List.append_nil] at alone
      exact Reader.or_some alone _
  | none =>
      have refused : literalAndBody w = none := by
        refine Option.eq_none_iff_forall_ne_some.mpr fun ⟨other, left⟩ early => ?_
        rw [isDelimited_literalAndBody.append early rest] at literal
        cases literal
      rw [Reader.or_none literal] at read
      rw [Reader.or_none refused]
      obtain ⟨⟨amount, content⟩, left, passed, made⟩ := Reader.bind_eq_some.mp read
      obtain ⟨rfl, rfl⟩ := Prod.mk.inj (Option.some.inj made)
      obtain ⟨after, split, -, -, bodied⟩ := Reader.upTo1_eq_some passed
      obtain ⟨own, rfl, alike⟩ := isDelimited_body bodied
      rw [← List.append_assoc] at split
      obtain rfl := List.append_cancel_right split
      rw [List.append_assoc] at passed
      rw [tokenAndBody, Reader.bind_some (isDelimited_body.upTo1_alone alike passed)]
      rfl

/-- A statement is read alike on its own. -/
theorem statement_alone {w rest : Text} {parts : Parts}
    (read : statement (w ++ rest) = some (parts, rest)) : statement w = some (parts, []) := by
  obtain ⟨⟨⟩, behind, word, later⟩ := Reader.bind_eq_some.mp read
  obtain ⟨⟨⟩, begun, apart, counted⟩ := Reader.bind_eq_some.mp later
  obtain ⟨gap, rfl, isGap⟩ := Text.gap_eq_some apart
  obtain ⟨isAmount, after, rfl, bodied⟩ := amountAndBody_eq_some counted
  obtain ⟨own, rfl, -⟩ := isDelimited_body bodied
  have split := Reader.word_eq_some word
  simp only [← List.append_assoc] at split
  obtain rfl := List.append_cancel_right split
  rw [← List.append_assoc] at counted
  simp only [List.append_assoc]
  rw [statement, Reader.bind_some (Reader.word_append _ _),
    Reader.bind_some (isGap.read (isAmount.solid own))]
  exact amountAndBody_alone counted

/-- The text of a statement is one statement with the same parts, and is read as they are. -/
theorem statements_alone {t : Text} {found : Found Parts} (mem : found ∈ statements t) :
    statements found.text = [⟨0, found.text, found.value⟩] ∧
      ofText found.text = ofParts found.value := by
  obtain ⟨front, rest, -, -, -, read⟩ := Search.all_sound statement_takesFront mem
  have alone := statement_alone read
  obtain ⟨w, some_, split⟩ := statement_takesFront read
  obtain rfl := List.append_cancel_right split
  exact ⟨Search.all_whole rfl some_ alone, ofText_eq_ofParts some_ alone⟩

/-! ## Refusals -/

/-- Whether a statement was found in what a fault refuses to read. -/
def IsRefusal (fault : Fault) : Prop := fault.kind = .unreadableStatement ∧ fault ≠ .noSend

theorem IsRefusal.message_ne {fault : Fault} (refusal : IsRefusal fault) :
    fault.message ≠ "Invalid send statement: missing monetary value" := by
  obtain ⟨kind, other⟩ := refusal
  have unlike (front after : Text)
      (apart : ¬front <+: ("Invalid send statement: missing monetary value" : Text)) :
      front ++ after ≠ "Invalid send statement: missing monetary value" :=
    fun same => apart ⟨after, same⟩
  cases fault
  case noSend => exact absurd rfl other
  case noSource | noDestination => decide +kernel
  case badPrecision asset => exact unlike "Invalid asset precision: " asset (by decide +kernel)
  case noLiteral text => exact unlike "Invalid monetary format: " text (by decide +kernel)
  case amountTooLong asset digits =>
    have split : (Fault.amountTooLong asset digits).message =
        ("Invalid monetary amount for " : Text) ++
          (asset ++ (": " ++ (Decimal.ofNat digits ++ " digits"))) := by
      simp only [← List.append_assoc]
      rfl
    rw [split]
    exact unlike "Invalid monetary amount for " _ (by decide +kernel)
  case unresolvedAmount word =>
    exact unlike "Invalid send statement: unresolved monetary value " word (by decide +kernel)
  all_goals cases kind

theorem failsOnly_monetary (t : Text) : FailsOnly IsRefusal (Monetary.ofText t) := by
  unfold Monetary.ofText
  split
  · next found first =>
      unfold Monetary.ofParts
      split
      · exact failsOnly_ok _
      · split
        · exact failsOnly_ok _
        · exact failsOnly_error ⟨rfl, nofun⟩
  · exact failsOnly_error ⟨rfl, nofun⟩

theorem failsOnly_monetary? (literal : Option Text) :
    FailsOnly IsRefusal (Source.monetary? literal) := by
  cases literal with
  | none => exact failsOnly_ok none
  | some inner => exact (failsOnly_monetary _).map some

theorem failsOnly_source (written : Text) (parts : Source.Parts) :
    FailsOnly IsRefusal (Source.ofParts written parts) :=
  (failsOnly_monetary? _).bind fun _ _ => (failsOnly_monetary? _).bind fun _ _ => failsOnly_ok _

theorem failsOnly_block (t : Text) : FailsOnly IsRefusal (Source.ofBlock t) := by
  unfold Source.ofBlock
  dsimp only
  split
  · exact FailsOnly.mapM fun found _ => failsOnly_source found.text found.value
  · split
    · split
      · exact failsOnly_ok []
      · exact (failsOnly_source _ _).map _
    · exact failsOnly_ok []

/-- What refuses a statement is never that there is none. -/
theorem failsOnly_ofParts (parts : Parts) : FailsOnly IsRefusal (ofParts parts) := by
  unfold ofParts
  dsimp only
  split
  · exact failsOnly_error ⟨rfl, nofun⟩
  · refine (failsOnly_monetary _).bind fun monetary _ => ?_
    split
    · exact failsOnly_error ⟨rfl, nofun⟩
    · exact failsOnly_error ⟨rfl, nofun⟩
    · exact (failsOnly_block _).bind fun sources _ => failsOnly_ok _

end Send

namespace Script

/-! ## Sends and failures -/

/-- How the statements of a script are dealt out in their order: each becomes the send that its
text is read as, or else the failure with its place, its text and the cause. -/
inductive Dealt : List (Found Send.Parts) → List Send → List Failure → Prop
  | nil : Dealt [] [] []
  | sent {found : Found Send.Parts} {rest : List (Found Send.Parts)} {send : Send}
      {sends : List Send} {failures : List Failure} (read : Send.ofText found.text = .ok send)
      (later : Dealt rest sends failures) : Dealt (found :: rest) (send :: sends) failures
  | failed {found : Found Send.Parts} {rest : List (Found Send.Parts)} {cause : Fault}
      {sends : List Send} {failures : List Failure}
      (refused : Send.ofText found.text = .error cause) (later : Dealt rest sends failures) :
      Dealt (found :: rest) sends (⟨found.start, found.stop, found.text, cause⟩ :: failures)

theorem dealt_statements (t : Text) :
    Dealt (Send.statements t) (ofText t).sends (ofText t).failures := by
  unfold ofText
  dsimp only
  induction Send.statements t with
  | nil => exact Dealt.nil
  | cons found rest ih =>
      rw [List.map_cons, readStatement]
      cases read : Send.ofText found.text with
      | ok send => exact Dealt.sent read ih
      | error cause => exact Dealt.failed read ih

section Dealt

variable {statements : List (Found Send.Parts)} {sends : List Send} {failures : List Failure}
  (dealt : Dealt statements sends failures)
include dealt

theorem Dealt.length_add_length : sends.length + failures.length = statements.length := by
  induction dealt with
  | nil => rfl
  | sent read later ih =>
      rw [List.length_cons, List.length_cons]
      omega
  | failed refused later ih =>
      rw [List.length_cons, List.length_cons]
      omega

theorem Dealt.exists_statement {failure : Failure} (mem : failure ∈ failures) :
    ∃ found ∈ statements, Send.ofText found.text = .error failure.cause ∧
      failure = ⟨found.start, found.stop, found.text, failure.cause⟩ := by
  induction dealt with
  | nil => cases mem
  | sent read later ih =>
      obtain ⟨found, listed, same⟩ := ih mem
      exact ⟨found, List.mem_cons_of_mem _ listed, same⟩
  | @failed found rest cause sends failures refused later ih =>
      rcases List.mem_cons.mp mem with rfl | further
      · exact ⟨found, List.mem_cons_self, refused, rfl⟩
      · obtain ⟨found, listed, same⟩ := ih further
        exact ⟨found, List.mem_cons_of_mem _ listed, same⟩

theorem Dealt.exists_sent {send : Send} (mem : send ∈ sends) :
    ∃ found ∈ statements, Send.ofText found.text = .ok send := by
  induction dealt with
  | nil => cases mem
  | @sent found rest sent sends failures read later ih =>
      rcases List.mem_cons.mp mem with rfl | further
      · exact ⟨found, List.mem_cons_self, read⟩
      · exact List.exists_mem_cons_of_exists (ih further)
  | failed refused later ih => exact List.exists_mem_cons_of_exists (ih mem)

/-- The places of failures are places of statements, in the same order. -/
theorem Dealt.sublist : (failures.map fun failure => (failure.start, failure.stop)).Sublist
    (statements.map fun found => (found.start, found.stop)) := by
  induction dealt with
  | nil => exact List.Sublist.slnil
  | sent read later ih => exact ih.cons _
  | failed refused later ih => exact ih.cons_cons _

end Dealt

/-- Each statement of a script is read once, where it stands and as a whole. The statements are
those found from left to right; the text of each is again one statement, with the same parts. In
their order they become sends and failures, each one or the other. No statement fails for being
none, and the failures stand apart in the script with the texts that they report. -/
theorem statements_read_once (t : Text) :
    let statements := Send.statements t
    let script := ofText t
    Search.IsScan (Search.atWordStart isWordChar) Send.statement t statements ∧
      (∀ found ∈ statements, Send.statements found.text = [⟨0, found.text, found.value⟩] ∧
        Send.ofText found.text = Send.ofParts found.value) ∧
      Dealt statements script.sends script.failures ∧
      script.sends.length + script.failures.length = statements.length ∧
      (∀ failure ∈ script.failures,
        failure.cause.message ≠ "Invalid send statement: missing monetary value") ∧
      (script.failures.Pairwise fun earlier later => earlier.stop ≤ later.start) ∧
      ∀ failure ∈ script.failures, failure.start < failure.stop ∧ failure.stop ≤ t.length ∧
        (t.take failure.stop).drop failure.start = failure.text := by
  intro statements script
  have scan : Search.IsScan (Search.atWordStart isWordChar) Send.statement t statements :=
    Search.isScan_all _ Send.statement_takesFront t
  have dealt : Dealt statements script.sends script.failures := dealt_statements t
  refine ⟨scan, fun found mem => Send.statements_alone mem, dealt, dealt.length_add_length,
    fun failure mem => ?_, ?_, fun failure mem => ?_⟩
  · obtain ⟨found, listed, refused, -⟩ := dealt.exists_statement mem
    rw [(Send.statements_alone listed).2] at refused
    exact (Send.failsOnly_ofParts _ _ refused).message_ne
  · have places : (statements.map fun found => (found.start, found.stop)).Pairwise
        fun earlier later => earlier.2 ≤ later.1 := List.pairwise_map.mpr scan.apart
    exact List.pairwise_map.mp (places.sublist dealt.sublist)
  · obtain ⟨found, listed, -, place⟩ := dealt.exists_statement mem
    rw [place]
    exact ⟨Search.start_lt_stop Send.statement_takesFront listed, scan.slice listed⟩

end Script

end DoubleEntry
