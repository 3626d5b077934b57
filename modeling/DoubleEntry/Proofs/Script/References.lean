import DoubleEntry.Execution.Run
import DoubleEntry.Proofs.Script.Placeholder
import DoubleEntry.Proofs.Script.Shares
import DoubleEntry.Proofs.Script.Statements

/-!
# References of a script

Every account that a script names is referred to in its text: the reference stands there as it
was read, an address in which braces may stand or a variable. Nothing else is taken for a
reference, also not what stands around it in a block.
-/

namespace DoubleEntry

namespace Script

/-! ## References in a text -/

/-- Whether a text is the sigil of an address or of a variable with characters behind that may
stand there. -/
inductive IsReference : Text → Prop
  | address {name : Text} (nonempty : name ≠ []) (chars : ∀ c ∈ name, isAddressChar c = true) :
      IsReference ('@' :: name)
  | variable {name : Text} (named : Placeholder.IsName name) : IsReference ('$' :: name)

/-- Whether a text is a reference that stands in another. -/
structure RefersIn (t reference : Text) : Prop where
  isReference : IsReference reference
  stands : reference <:+: t

theorem RefersIn.mono {part t reference : Text} (refers : RefersIn part reference)
    (within : part <:+: t) : RefersIn t reference :=
  ⟨refers.isReference, refers.stands.trans within⟩

theorem IsReference.solid {reference : Text} (h : IsReference reference) :
    ∀ c ∈ reference, isBlank c = false := by
  cases h with
  | address nonempty chars =>
      refine List.forall_mem_cons.mpr ⟨by decide, fun c mem => ?_⟩
      refine Bool.eq_false_iff.mpr fun blank => ?_
      have outside := isAddressChar_of_isBlank blank
      rw [chars c mem] at outside
      cases outside
  | «variable» named =>
      refine List.forall_mem_cons.mpr ⟨by decide, fun c mem => ?_⟩
      refine Bool.eq_false_iff.mpr fun blank => ?_
      have outside := isWordChar_of_isBlank blank
      rw [named.chars c mem] at outside
      cases outside

theorem IsReference.unbraced {reference : Text} (h : IsReference reference) :
    reference.head? ≠ some (.char '{') := by
  cases h with
  | address nonempty chars => exact fun same => absurd (Option.some.inj same) (by decide)
  | «variable» named => exact fun same => absurd (Option.some.inj same) (by decide)

/-- A reference that is no variable any more is an address, in which no dollar sign stands. -/
theorem IsReference.address_of_not_variable {reference : Text} (h : IsReference reference)
    (bound : ¬isVariable reference) :
    Address.normalize reference = reference ∧ (.char '$' : CodePoint) ∉ reference := by
  cases h with
  | @address name nonempty chars =>
      refine ⟨Address.normalize_sigil name, fun mem => ?_⟩
      rcases List.mem_cons.mp mem with same | inside
      · exact absurd same (by decide)
      · have outside : isAddressChar (.char '$') = false := by decide +kernel
        rw [chars _ inside] at outside
        cases outside
  | «variable» named => exact absurd rfl bound

theorem address_eq_some {t reference rest : Text} (h : address t = some (reference, rest)) :
    t = reference ++ rest ∧ IsReference reference := by
  obtain ⟨c, behind, begun, later⟩ := Reader.bind_eq_some.mp h
  obtain ⟨name, after, taken, last⟩ := Reader.bind_eq_some.mp later
  obtain ⟨rfl, sigil⟩ := Reader.char_eq_some begun
  obtain ⟨nonempty, chars⟩ := Reader.many1_all taken
  obtain rfl := Reader.many1_eq_some taken
  obtain ⟨rfl, rfl⟩ := Prod.mk.inj (Option.some.inj last)
  obtain rfl := of_decide_eq_true sigil
  exact ⟨rfl, .address nonempty chars⟩

theorem variableRef_eq_some {t reference rest : Text}
    (h : variableRef t = some (reference, rest)) :
    t = reference ++ rest ∧ IsReference reference := by
  obtain ⟨c, behind, begun, later⟩ := Reader.bind_eq_some.mp h
  obtain ⟨name, after, taken, last⟩ := Reader.bind_eq_some.mp later
  obtain ⟨rfl, dollar⟩ := Reader.char_eq_some begun
  obtain ⟨nonempty, chars⟩ := Reader.many1_all taken
  obtain rfl := Reader.many1_eq_some taken
  obtain ⟨rfl, rfl⟩ := Prod.mk.inj (Option.some.inj last)
  obtain rfl := of_decide_eq_true dollar
  exact ⟨rfl, .variable ⟨nonempty, chars⟩⟩

theorem accountRef_eq_some {t reference rest : Text}
    (h : accountRef t = some (reference, rest)) :
    t = reference ++ rest ∧ IsReference reference :=
  (Reader.or_eq_some h).elim address_eq_some variableRef_eq_some

theorem accountRef_takes : accountRef.Takes fun _ => True :=
  fun _ _ reference h => ⟨reference, (accountRef_eq_some h).1, fun _ _ => trivial⟩

theorem accountRef_refersIn {t reference rest : Text}
    (h : accountRef t = some (reference, rest)) : RefersIn t reference := by
  obtain ⟨rfl, isReference⟩ := accountRef_eq_some h
  exact ⟨isReference, (List.prefix_append reference rest).isInfix⟩

theorem blockBody_infix (t : Text) : blockBody t <:+: t :=
  (List.dropLast_prefix _).isInfix.trans (List.drop_suffix 1 t).isInfix

theorem braceBlock_eq_some {t block rest : Text} (h : braceBlock t = some (block, rest)) :
    t = block ++ rest ∧ ∃ inner, block = Text.enclosed '{' '}' inner := by
  obtain ⟨inner, after, enclosed, made⟩ := Reader.bind_eq_some.mp h
  obtain ⟨rfl, rfl⟩ := Prod.mk.inj (Option.some.inj made)
  exact ⟨(Reader.enclosed_eq_some enclosed).2, inner, rfl⟩

theorem braceBlock_takes : braceBlock.Takes fun _ => True :=
  (Reader.takes_enclosed _ _).bind fun _ => Reader.takes_pure _

theorem clauseHead_takes (name : Text) : (clauseHead name).Takes fun _ => True :=
  (Reader.takes_word fun _ _ => trivial).bind fun _ => Reader.takes_blanks.bind fun _ =>
    (Reader.takes_char fun _ _ => trivial).bind fun _ => Reader.takes_blanks

end Script

open Script (RefersIn)

/-! ## Sources -/

namespace Source

theorem capClause_takes : capClause.Takes fun _ => True := by
  have gap : Reader.gap.Takes fun _ => True := Reader.takes_gap fun _ _ => trivial
  have word (w : Text) : (Reader.word w).Takes fun _ => True :=
    Reader.takes_word fun _ _ => trivial
  exact (word _).bind fun _ => gap.bind fun _ => (Reader.takes_enclosed1 _ _).bind fun _ =>
    gap.bind fun _ => (word _).bind fun _ => gap.bind fun _ => Reader.takes_pure _

theorem item_takes : item.Takes fun _ => True :=
  capClause_takes.optional.bind fun _ => Script.accountRef_takes.bind fun _ =>
    grant_takes.optional.bind fun _ => Reader.takes_pure _

theorem item_refersIn {t rest : Text} {parts : Parts} (h : item t = some (parts, rest)) :
    RefersIn t parts.account := by
  obtain ⟨cap, behind, capped, later⟩ := Reader.bind_eq_some.mp h
  obtain ⟨account, after, named, granted⟩ := Reader.bind_eq_some.mp later
  obtain ⟨grant, left, -, made⟩ := Reader.bind_eq_some.mp granted
  obtain ⟨rfl, -⟩ := Prod.mk.inj (Option.some.inj made)
  exact (Script.accountRef_refersIn named).mono (capClause_takes.optional.suffix capped).isInfix

theorem account_ofParts {written : Text} {parts : Parts} {source : Source}
    (h : ofParts written parts = .ok source) : source.account = parts.account := by
  obtain ⟨cap, -, later⟩ := bind_eq_ok.mp h
  obtain ⟨limit, -, made⟩ := bind_eq_ok.mp later
  obtain rfl := Except.ok.inj made
  rfl

theorem refersIn_ofBlock {t : Text} {sources : List Source} (h : ofBlock t = .ok sources) :
    ∀ source ∈ sources, RefersIn t source.account := by
  intro source mem
  have within := Text.strip_infix t
  unfold ofBlock at h
  dsimp only at h
  split at h
  · obtain ⟨found, listed, made⟩ := (mem_of_mapM_eq_ok h source).mp mem
    obtain ⟨front, rest, tail, read⟩ := Search.exists_read_within item_takes listed
    rw [account_ofParts made]
    exact (item_refersIn read).mono
      ((tail.isInfix.trans (Script.blockBody_infix _)).trans within)
  · split at h
    · next parts written rest read =>
        by_cases capped : parts.cap.isSome = true
        · rw [if_pos capped] at h
          obtain rfl := Except.ok.inj h
          cases mem
        · rw [if_neg capped] at h
          obtain ⟨only, made, same⟩ := map_eq_ok.mp h
          rw [← same] at mem
          obtain rfl := List.mem_singleton.mp mem
          rw [account_ofParts made]
          exact (item_refersIn (Reader.withText_eq_some read).1).mono within
    · obtain rfl := Except.ok.inj h
      cases mem

theorem rightSide_takes : rightSide.Takes fun _ => True :=
  Script.braceBlock_takes.or ((Script.accountRef_takes.bind fun _ =>
    grant_takes.optional).withText.map _)

theorem clause_takes : clause.Takes fun _ => True :=
  (Script.clauseHead_takes _).bind fun _ => rightSide_takes

theorem clause_infix {t value rest : Text} (h : clause t = some (value, rest)) : value <:+: t := by
  obtain ⟨⟨⟩, behind, head, right⟩ := Reader.bind_eq_some.mp h
  have tail := ((Script.clauseHead_takes _).suffix head).isInfix
  rcases Reader.or_eq_some right with block | bare
  · obtain ⟨rfl, -⟩ := Script.braceBlock_eq_some block
    exact (List.prefix_append value rest).isInfix.trans tail
  · obtain ⟨result, read, rfl⟩ := Reader.map_eq_some bare
    exact (Reader.withText_eq_some read).2.isInfix.trans tail

end Source

/-! ## Destinations -/

namespace Destination

theorem portionClause_takes : portionClause.Takes fun _ => True := by
  have gap : Reader.gap.Takes fun _ => True := Reader.takes_gap fun _ _ => trivial
  have bridge : toClause.Takes fun _ => True :=
    (Reader.takes_word fun _ _ => trivial).bind fun _ => gap
  exact (Preview.portion_takes.mono fun _ _ => trivial).bind fun _ => gap.bind fun _ =>
    bridge.optional.bind fun _ => Reader.takes_pure _

theorem receiverRef_takes : receiverRef.Takes fun _ => True :=
  (Script.accountRef_takes.map _).or
    ((Reader.takes_word fun _ _ => trivial).bind fun _ => Reader.takes_pure _)

theorem item_takes : item.Takes fun _ => True :=
  portionClause_takes.optional.bind fun _ => receiverRef_takes.bind fun _ => Reader.takes_pure _

theorem item_refersIn {t rest reference : Text} {destination : Destination}
    (h : item t = some (destination, rest)) (named : destination.receiver = .account reference) :
    RefersIn t reference := by
  obtain ⟨portion, behind, shared, later⟩ := Reader.bind_eq_some.mp h
  obtain ⟨receiver, after, read, made⟩ := Reader.bind_eq_some.mp later
  obtain ⟨rfl, -⟩ := Prod.mk.inj (Option.some.inj made)
  obtain rfl : receiver = .account reference := named
  have tail := (portionClause_takes.optional.suffix shared).isInfix
  rcases Reader.or_eq_some read with account | kept
  · obtain ⟨value, spelled, same⟩ := Reader.map_eq_some account
    obtain rfl := Receiver.account.inj same
    exact (Script.accountRef_refersIn spelled).mono tail
  · obtain ⟨⟨⟩, left, -, last⟩ := Reader.bind_eq_some.mp kept
    cases last

/-- Behind the equals sign a block holds its references, and a reference on its own is taken as
it stands. -/
theorem rightSide_refersIn {t block rest reference : Text} {destination : Destination}
    (h : rightSide t = some (block, rest)) (mem : destination ∈ ofBlock block)
    (named : destination.receiver = .account reference) : RefersIn t reference := by
  rcases Reader.or_eq_some h with braced | bare
  · obtain ⟨rfl, inner, rfl⟩ := Script.braceBlock_eq_some braced
    have opened : (Text.enclosed '{' '}' inner).head? = some (.char '{') := rfl
    rw [ofBlock, Script.strip_block, Script.blockBody_block, if_pos opened] at mem
    obtain ⟨found, listed, rfl⟩ := List.mem_map.mp mem
    obtain ⟨front, left, tail, read⟩ := Search.exists_read_within item_takes listed
    have inside : inner <:+: Text.enclosed '{' '}' inner := ⟨[.char '{'], [.char '}'], rfl⟩
    exact (item_refersIn read named).mono
      ((tail.isInfix.trans inside).trans (List.prefix_append _ rest).isInfix)
  · -- A reference has no blank and no brace in front, so stripping keeps it and no block opens.
    have refers := Script.accountRef_refersIn bare
    have whole : ofBlock block = [⟨.account block, none⟩] := by
      rw [ofBlock, Text.strip_solid refers.isReference.solid]
      exact if_neg refers.isReference.unbraced
    rw [whole] at mem
    obtain rfl := List.mem_singleton.mp mem
    obtain rfl := Receiver.account.inj named
    exact refers

theorem clause_takes : clause.Takes fun _ => True :=
  (Script.clauseHead_takes _).bind fun _ => Script.braceBlock_takes.or Script.accountRef_takes

theorem clause_refersIn {t block rest reference : Text} {destination : Destination}
    (h : clause t = some (block, rest)) (mem : destination ∈ ofBlock block)
    (named : destination.receiver = .account reference) : RefersIn t reference := by
  obtain ⟨⟨⟩, behind, head, right⟩ := Reader.bind_eq_some.mp h
  exact (rightSide_refersIn right mem named).mono
    ((Script.clauseHead_takes _).suffix head).isInfix

theorem mem_live {destinations : List Destination} {reference : Text}
    (mem : reference ∈ (live destinations).map Prod.fst) :
    ∃ destination ∈ destinations, destination.receiver = .account reference := by
  obtain ⟨share, listed, rfl⟩ := List.mem_map.mp mem
  obtain ⟨destination, here, shared⟩ := List.mem_filterMap.mp listed
  refine ⟨destination, here, ?_⟩
  split at shared
  · next reference named =>
      obtain rfl := Option.some.inj shared
      exact named
  · cases shared

end Destination

/-! ## Sends, notes and scripts -/

namespace Send

/-- The references to the sources of a send, and to the destinations that are not kept. -/
def references (send : Send) : List Text :=
  send.sources.map Source.account ++ (Destination.live send.destinations).map Prod.fst

theorem refersIn_ofParts {parts : Parts} {send : Send} (h : ofParts parts = .ok send) :
    ∀ reference ∈ send.references, RefersIn parts.body reference := by
  obtain ⟨-, source, destination, drawn, given, read, made⟩ := clauses_of_ofParts h
  refine List.forall_mem_append.mpr ⟨fun reference mem => ?_, fun reference mem => ?_⟩
  · obtain ⟨giver, listed, rfl⟩ := List.mem_map.mp mem
    obtain ⟨front, rest, tail, found⟩ :=
      Search.exists_read_within Source.clause_takes (List.mem_of_mem_head? drawn)
    exact (Source.refersIn_ofBlock read giver listed).mono
      ((Source.clause_infix found).trans tail.isInfix)
  · obtain ⟨taker, listed, named⟩ := Destination.mem_live mem
    obtain ⟨front, rest, tail, found⟩ :=
      Search.exists_read_within Destination.clause_takes (List.mem_of_mem_head? given)
    rw [made] at listed
    exact (Destination.clause_refersIn found listed named).mono tail.isInfix

/-- The body of a statement is a part of its text. -/
theorem IsStatement.body_infix {amount body t : Text} (shape : IsStatement amount body t) :
    body <:+: t := by
  obtain ⟨gap, row, -, -, rfl⟩ := shape.spelled
  refine ⟨("send" : Text) ++ (gap ++ (amount ++ (row ++ [.char '(']))), [.char ')'], ?_⟩
  simp [Text.enclosed]

end Send

namespace Note

theorem comma_takes : comma.Takes fun _ => True :=
  Reader.takes_blanks.bind fun _ => (Reader.takes_char fun _ _ => trivial).bind fun _ =>
    Reader.takes_blanks

theorem callHead_takes (name : Text) : (callHead name).Takes fun _ => True :=
  (Reader.takes_word fun _ _ => trivial).bind fun _ => Reader.takes_blanks.bind fun _ =>
    (Reader.takes_char fun _ _ => trivial).bind fun _ => Reader.takes_blanks

theorem value_takes : value.Takes fun _ => True := by
  have reference : Script.variableRef.Takes fun _ => True :=
    fun _ _ w h => ⟨w, (Script.variableRef_eq_some h).1, fun _ _ => trivial⟩
  exact (Reader.takes_enclosed _ _).or (reference.or ((Reader.takes_enclosed1 _ _).or
    (Reader.takes_many1 fun _ _ => trivial)))

theorem keyAndValue_takes : keyAndValue.Takes fun _ => True :=
  (Reader.takes_enclosed1 _ _).bind fun _ => comma_takes.bind fun _ => value_takes.bind fun _ =>
    Reader.takes_blanks.bind fun _ => (Reader.takes_char fun _ _ => trivial).bind fun _ =>
      Reader.takes_pure _

theorem accountNote_takes : accountNote.Takes fun _ => True :=
  (callHead_takes _).bind fun _ => Script.accountRef_takes.bind fun _ => comma_takes.bind fun _ =>
    keyAndValue_takes.bind fun _ => Reader.takes_pure _

theorem accountNote_refersIn {t rest account key value : Text}
    (h : accountNote t = some (.account account key value, rest)) : RefersIn t account := by
  obtain ⟨⟨⟩, behind, head, later⟩ := Reader.bind_eq_some.mp h
  obtain ⟨reference, after, named, further⟩ := Reader.bind_eq_some.mp later
  obtain ⟨⟨⟩, left, -, spelled⟩ := Reader.bind_eq_some.mp further
  obtain ⟨pair, last, -, made⟩ := Reader.bind_eq_some.mp spelled
  obtain ⟨same, -⟩ := Prod.mk.inj (Option.some.inj made)
  obtain ⟨rfl, -, -⟩ := Note.account.inj same
  exact (Script.accountRef_refersIn named).mono ((callHead_takes _).suffix head).isInfix

theorem transactionNote_eq_some {t rest : Text} {note : Note}
    (h : transactionNote t = some (note, rest)) : ∃ key value, note = .transaction key value := by
  obtain ⟨⟨⟩, behind, -, later⟩ := Reader.bind_eq_some.mp h
  obtain ⟨⟨key, value⟩, after, -, made⟩ := Reader.bind_eq_some.mp later
  obtain ⟨rfl, -⟩ := Prod.mk.inj (Option.some.inj made)
  exact ⟨key, value, rfl⟩

theorem refersIn_all {t account key value : Text} (mem : .account account key value ∈ all t) :
    RefersIn t account := by
  obtain ⟨found, listed, same⟩ := List.mem_map.mp mem
  rcases List.mem_append.mp (List.mem_mergeSort.mp listed) with onTransaction | onAccount
  · obtain ⟨front, rest, read⟩ := Search.exists_read onTransaction
    obtain ⟨_, _, other⟩ := transactionNote_eq_some read
    rw [same] at other
    cases other
  · obtain ⟨front, rest, tail, read⟩ := Search.exists_read_within accountNote_takes onAccount
    rw [same] at read
    exact (accountNote_refersIn read).mono tail.isInfix

end Note

namespace Script

/-- The references of a script: those of its sends, and those of its notes on accounts. -/
def references (script : Script) : List Text :=
  script.sends.flatMap Send.references ++ script.accountNotes.map Prod.fst

/-- What a script refers to stands in its text. -/
theorem refersIn_ofText {t reference : Text} (mem : reference ∈ (ofText t).references) :
    RefersIn t reference := by
  rcases List.mem_append.mp mem with sent | noted
  · obtain ⟨send, listed, named⟩ := List.mem_flatMap.mp sent
    obtain ⟨found, here, read⟩ := (dealt_statements t).exists_sent listed
    obtain ⟨front, rest, rfl, -, -, began⟩ := Search.all_sound Send.statement_takesFront here
    obtain ⟨w, split, shape⟩ := Send.statement_eq_some began
    obtain rfl := List.append_cancel_right split
    rw [(Send.statements_alone here).2] at read
    have body := Send.refersIn_ofParts read reference named
    refine (body.mono shape.body_infix).mono ⟨front, rest, ?_⟩
    rw [List.append_assoc]
  · obtain ⟨note, listed, rfl⟩ := List.mem_map.mp noted
    obtain ⟨given, here, same⟩ := List.mem_filterMap.mp listed
    cases given with
    | transaction key value => cases same
    | account account key value =>
        obtain rfl := Option.some.inj same
        exact Note.refersIn_all here

end Script

end DoubleEntry
