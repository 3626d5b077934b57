import DoubleEntry.Demo.Basic
import DoubleEntry.Proofs.Except

/-!
# Misfits of configurations

The readers of a configuration refuse what they look out for: fields that are missing or no
texts, unknown colors and types. A part of a shape that they do not look out for fails where
it is taken apart, and that failure is not one of the configuration. The shapes are listed
here, part by part, each under the condition that what is read before it can be read.
-/

namespace DoubleEntry

/-! ## Straying -/

section Straying

variable {α β : Type}

/-- Whether reading fails, and not for a fault of the configuration. -/
def Strays : Except Fault α → Prop
  | .ok _ => False
  | .error fault => fault.kind ≠ .configuration

theorem not_strays_iff {outcome : Except Fault α} :
    ¬Strays outcome ↔ (∃ value, outcome = .ok value) ∨
      ∃ fault, outcome = .error fault ∧ fault.kind = .configuration := by
  cases outcome with
  | ok value => simp [Strays]
  | error fault => simp [Strays]

@[simp]
theorem not_strays_ok (value : α) : ¬Strays (.ok value : Except Fault α) := id

@[simp]
theorem not_strays_pure (value : α) : ¬Strays (pure value : Except Fault α) := id

@[simp]
theorem strays_error {fault : Fault} :
    Strays (.error fault : Except Fault α) ↔ fault.kind ≠ .configuration := Iff.rfl

@[simp]
theorem strays_throw {fault : Fault} :
    Strays (throw fault : Except Fault α) ↔ fault.kind ≠ .configuration := Iff.rfl

/-- Reading in steps strays where one of the steps does. -/
theorem strays_bind {first : Except Fault α} {next : α → Except Fault β} :
    Strays (first >>= next) ↔
      Strays first ∨ ∃ value, first = .ok value ∧ Strays (next value) := by
  cases first with
  | error fault =>
      constructor
      · exact Or.inl
      · rintro (stray | ⟨_, ⟨⟩, _⟩)
        exact stray
  | ok value =>
      constructor
      · intro stray
        exact Or.inr ⟨value, rfl, stray⟩
      · rintro (stray | ⟨_, same, stray⟩)
        · exact absurd stray (not_strays_ok value)
        · obtain rfl := Except.ok.inj same
          exact stray

theorem strays_map {first : Except Fault α} {f : α → β} : Strays (f <$> first) ↔ Strays first := by
  cases first with
  | error fault => exact Iff.rfl
  | ok value => exact Iff.rfl

/-- Behind a step that never strays a later one may. -/
theorem strays_bind_of_not {first : Except Fault α} {next : α → Except Fault β}
    (never : ¬Strays first) :
    Strays (first >>= next) ↔ ∃ value, first = .ok value ∧ Strays (next value) := by
  rw [strays_bind, or_iff_right never]

/-- Reading a row strays at the first part that cannot be read, if it does. -/
theorem strays_mapM {read : α → Except Fault β} {items : List α} :
    Strays (items.mapM read) ↔ ∃ front part rest, items = front ++ part :: rest ∧
      (∀ other ∈ front, ∃ result, read other = .ok result) ∧ Strays (read part) := by
  induction items with
  | nil =>
      rw [List.mapM_nil]
      constructor
      · rintro ⟨⟩
      · rintro ⟨front, part, rest, split, -, -⟩
        exact absurd split.symm (List.append_ne_nil_of_right_ne_nil _ (List.cons_ne_nil _ _))
  | cons item rest ih =>
      -- To put the first part in front never strays.
      have later {first : β} :
          Strays (rest.mapM read >>= fun others => pure (first :: others)) ↔
            Strays (rest.mapM read) := by
        rw [strays_bind, or_iff_left]
        rintro ⟨_, _, ⟨⟩⟩
      rw [List.mapM_cons, strays_bind]
      constructor
      · rintro (stray | ⟨first, made, stray⟩)
        · exact ⟨[], item, rest, rfl, nofun, stray⟩
        · obtain ⟨front, part, others, rfl, readable, strayed⟩ := ih.mp (later.mp stray)
          exact ⟨item :: front, part, others, rfl,
            List.forall_mem_cons.mpr ⟨⟨first, made⟩, readable⟩, strayed⟩
      · rintro ⟨front, part, others, split, readable, strayed⟩
        cases front with
        | nil =>
            obtain ⟨rfl, rfl⟩ := List.cons.inj split
            exact Or.inl strayed
        | cons head front =>
            obtain ⟨rfl, rfl⟩ := List.cons.inj split
            obtain ⟨⟨first, made⟩, readable⟩ := List.forall_mem_cons.mp readable
            exact Or.inr ⟨first, made,
              later.mpr (ih.mpr ⟨front, part, others, rfl, readable, strayed⟩)⟩

end Straying

/-! ## Taking values apart -/

namespace Data

/-- Whether a value can be searched for a key: an object, a text that does not have the key as
a part, and a list that does not have it as an item. -/
def isSearchable (key : Text) : Data → Bool
  | .object _ => true
  | .text t => !Text.occursIn key t
  | .list items => !items.any (isText key)
  | _ => false

/-- Whether a value can be gone through: it has parts, or it does not count as present. -/
def isListable : Data → Bool
  | .list _ | .text _ | .object _ => true
  | other => !other.isPresent

/-- Whether a value is an object. -/
def isObject : Data → Bool
  | .object _ => true
  | _ => false

theorem strays_member? {key : Text} {value : Data} :
    Strays (value.member? key) ↔ value.isSearchable key = false := by
  cases value with
  | object fields => simp [member?, isSearchable]
  | text t =>
      by_cases occurs : Text.occursIn key t = true <;>
        simp [member?, isSearchable, occurs, Fault.kind]
  | list items =>
      by_cases held : items.any (isText key) = true <;>
        simp [member?, isSearchable, held, Fault.kind]
  | _ => simp [member?, isSearchable, Fault.kind]

theorem strays_textMember {place key : Text} {value : Data} :
    Strays (value.textMember place key) ↔ value.isSearchable key = false := by
  rw [textMember, strays_bind, strays_member?, or_iff_left]
  rintro ⟨found, -, stray⟩
  split at stray
  · exact stray rfl
  · exact stray
  · exact stray rfl

theorem strays_sequence {value : Data} : Strays value.sequence ↔ value.isListable = false := by
  by_cases present : value.isPresent = true
  · cases value <;> simp [sequence, elements, isListable, present, Fault.kind]
  · cases value <;> simp [sequence, isListable, present]

theorem strays_of_elements {value : Data} {fault : Fault} (failed : value.elements = .error fault) :
    fault.kind ≠ .configuration := by
  cases value with
  | list items => cases failed
  | text t => cases failed
  | object fields => cases failed
  | _ =>
      obtain rfl := Except.error.inj failed
      exact nofun

theorem strays_of_sequence {value : Data} {fault : Fault} (failed : value.sequence = .error fault) :
    fault.kind ≠ .configuration := by
  unfold sequence at failed
  split at failed
  · exact strays_of_elements failed
  · cases failed

/-- To write a value strays where a number in it is too long. -/
theorem strays_written {value : Data} :
    Strays value.written ↔ ∃ number ∈ value.numbers, Decimal.fits number = false := by
  rw [written, Decimal.writing]
  split
  · next fit =>
      refine iff_of_false (not_strays_ok _) ?_
      rintro ⟨number, held, tooLong⟩
      rw [List.all_eq_true.mp fit number held] at tooLong
      cases tooLong
  · next unfit =>
      refine iff_of_true nofun ?_
      simpa using unfit

variable {fields : List (Text × Data)} {place key t : Text} {default : Data}

theorem memberOr_object :
    (object fields).memberOr key default = .ok ((Entries.get? fields key).getD default) := rfl

theorem memberOr_object_bind {α : Type} {next : Data → Except Fault α} :
    ((object fields).memberOr key default >>= next) =
      next ((Entries.get? fields key).getD default) := rfl

theorem textMember_object :
    (object fields).textMember place key = .ok t ↔ Entries.get? fields key = some (.text t) := by
  unfold textMember member?
  rw [bind_eq_ok]
  constructor
  · rintro ⟨found, ⟨rfl⟩, made⟩
    split at made
    · cases made
    · rename_i held
      rw [held, ← Except.ok.inj made]
    · cases made
  · intro held
    exact ⟨_, rfl, by rw [held]; rfl⟩

theorem object_of_textMember {value : Data} (made : value.textMember place key = .ok t) :
    ∃ fields, value = .object fields := by
  obtain ⟨found, held, made⟩ := bind_eq_ok.mp made
  have missing {occurs : Prop} [Decidable occurs]
      (held : (if occurs then .error Fault.wrongKind else .ok none) = Except.ok found) : False := by
    split at held
    · cases held
    · obtain rfl := Except.ok.inj held
      cases made
  unfold member? at held
  split at held
  · exact ⟨_, rfl⟩
  · exact (missing held).elim
  · exact (missing held).elim
  · cases held

/-- Reading on behind a text of an object strays where the text is there and what is read then
strays. -/
theorem strays_textMember_object_bind {α : Type} {next : Text → Except Fault α} :
    Strays ((object fields).textMember place key >>= next) ↔
      ∃ t, Entries.get? fields key = some (.text t) ∧ Strays (next t) := by
  have never : ¬Strays ((object fields).textMember place key) := mt strays_textMember.mp nofun
  simp only [strays_bind, or_iff_right never, textMember_object]

/-- Reading on behind a text of a value strays where the value cannot be searched for it, too. -/
theorem strays_textMember_bind {α : Type} {value : Data} {next : Text → Except Fault α} :
    Strays (value.textMember place key >>= next) ↔ value.isSearchable key = false ∨
      ∃ fields t, value = .object fields ∧ Entries.get? fields key = some (.text t) ∧
        Strays (next t) := by
  rw [strays_bind, strays_textMember]
  refine or_congr_right ?_
  constructor
  · rintro ⟨t, made, stray⟩
    obtain ⟨fields, rfl⟩ := object_of_textMember made
    exact ⟨fields, t, rfl, textMember_object.mp made, stray⟩
  · rintro ⟨fields, t, rfl, held, stray⟩
    exact ⟨t, textMember_object.mpr held, stray⟩

end Data

/-- The ways in which a value is no row of parts that `read` reads. -/
inductive UnfitRow {α : Type} (read : Data → Except Fault α) (Unfit : Data → Prop)
    (row : Data) : Prop
  | unlisted (not_listable : row.isListable = false)
  | part {front : List Data} {part : Data} {rest : List Data}
      (listed : row.sequence = .ok (front ++ part :: rest))
      (readable : ∀ other ∈ front, ∃ result, read other = .ok result) (unfit : Unfit part)

/-- Whether a value is a row of parts that `read` reads. -/
def ReadsRow {α : Type} (read : Data → Except Fault α) (row : Data) : Prop :=
  ∃ parts, row.sequence = .ok parts ∧ ∀ part ∈ parts, ∃ result, read part = .ok result

section Rows

variable {α β : Type} {read : Data → Except Fault α} {Unfit : Data → Prop} {row : Data}

theorem strays_row (strays_read : ∀ part, Strays (read part) ↔ Unfit part) :
    Strays (row.sequence >>= fun parts => parts.mapM read) ↔ UnfitRow read Unfit row := by
  rw [strays_bind, Data.strays_sequence]
  constructor
  · rintro (unlisted | ⟨parts, listed, stray⟩)
    · exact .unlisted unlisted
    · obtain ⟨front, part, rest, rfl, readable, strayed⟩ := strays_mapM.mp stray
      exact .part listed readable ((strays_read part).mp strayed)
  · rintro (unlisted | ⟨listed, readable, unfit⟩)
    · exact Or.inl unlisted
    · exact Or.inr ⟨_, listed, strays_mapM.mpr ⟨_, _, _, rfl, readable, (strays_read _).mpr unfit⟩⟩

theorem readsRow_iff :
    ReadsRow read row ↔ ∃ results, (row.sequence >>= fun parts => parts.mapM read) = .ok results := by
  constructor
  · rintro ⟨parts, listed, readable⟩
    obtain ⟨results, made⟩ := exists_mapM_ok_iff.mpr readable
    exact ⟨results, bind_eq_ok.mpr ⟨parts, listed, made⟩⟩
  · rintro ⟨results, made⟩
    obtain ⟨parts, listed, made⟩ := bind_eq_ok.mp made
    exact ⟨parts, listed, exists_mapM_ok_iff.mp ⟨results, made⟩⟩

/-- Reading on behind a row strays in the row or, whatever its parts are, behind it. -/
theorem strays_row_bind (strays_read : ∀ part, Strays (read part) ↔ Unfit part)
    {next : List α → Except Fault β} {Later : Prop}
    (later : ∀ results, Strays (next results) ↔ Later) :
    Strays (row.sequence >>= fun parts => parts.mapM read >>= next) ↔
      UnfitRow read Unfit row ∨ (ReadsRow read row ∧ Later) := by
  rw [← bind_assoc, strays_bind, strays_row strays_read, readsRow_iff]
  simp only [later, exists_and_right]

end Rows

/-! ## Queries -/

namespace Metadata

/-- Whether an item is a pair: two parts of which the first can be a key. -/
def isPair (item : Data) : Bool :=
  match item.elements with
  | .ok [key, _] => key.isScalar
  | _ => false

/-- Whether a value can be taken as metadata: an object, or a row of pairs. -/
def isNotable : Data → Bool
  | .object _ => true
  | other => match other.sequence with
    | .ok items => items.all isPair
    | .error _ => false

theorem isNotable_of_absent {value : Data} (absent : ¬value.isPresent = true) :
    isNotable value = true := by
  cases value with
  | object fields => rfl
  | _ =>
      simp only [isNotable, Data.sequence, if_neg absent]
      rfl

theorem pair_outcome (index : Nat) (item : Data) :
    (isPair item = true ∧ ∃ p, pair index item = .ok p) ∨
      (isPair item = false ∧ Strays (pair index item)) := by
  unfold pair isPair
  cases taken : item.elements with
  | error fault =>
      refine Or.inr ⟨rfl, strays_bind.mpr (Or.inl (Data.strays_of_elements taken))⟩
  | ok parts =>
      match parts with
      | [key, value] =>
          cases scalar : key.isScalar with
          | true => exact Or.inl ⟨scalar, (key, value), bind_eq_ok.mpr ⟨_, rfl,
              bind_eq_ok.mpr ⟨key, if_pos scalar, rfl⟩⟩⟩
          | false => exact Or.inr ⟨scalar, by simp [strays_bind, Data.asKey, scalar, Fault.kind]⟩
      | [] | [_] | _ :: _ :: _ :: _ => simp [strays_bind, Fault.kind]

theorem strays_pairsFrom {index : Nat} {items : List Data} :
    Strays (pairsFrom index items) ↔ items.all isPair = false := by
  induction items generalizing index with
  | nil => simp [pairsFrom]
  | cons item rest ih =>
      rw [pairsFrom, List.all_cons]
      obtain ⟨paired, p, made⟩ | ⟨unpaired, stray⟩ := pair_outcome index item
      · have later : Strays (pairsFrom (index + 1) rest) ↔ rest.all isPair = false := ih
        rw [paired, Bool.true_and, ← later, made]
        exact strays_map
      · rw [unpaired, Bool.false_and, eq_self, iff_true]
        exact strays_bind.mpr (Or.inl stray)

theorem strays_ofData {value : Data} : Strays (ofData value) ↔ isNotable value = false := by
  have row {other : Data} :
      Strays (other.sequence >>= fun items => pairsFrom 0 items >>= fun pairs =>
          pure (ofPairs pairs)) ↔
        (match other.sequence with
          | .ok items => items.all isPair
          | .error _ => false) = false := by
    cases listed : other.sequence with
    | error fault =>
        have stray := Data.strays_of_sequence listed
        exact ⟨fun _ => rfl, fun _ => stray⟩
    | ok items => exact strays_map.trans strays_pairsFrom
  cases value with
  | object fields => exact ⟨nofun, nofun⟩
  | _ => exact row

end Metadata

namespace Query

open Entries

/-- The ways in which a value is no query, past what the reader of queries looks out for. -/
inductive Unfit : Data → Prop
  | unsearchable {data : Data} (not_searchable : data.isSearchable "queryType" = false) :
      Unfit data
  | unlisted {fields : List (Text × Data)} {title : Text}
      (type : get? fields "queryType" = some (.text "balance"))
      (titled : get? fields "title" = some (.text title))
      (not_listable : ((get? fields "addressFilters").getD .null).isListable = false) :
      Unfit (.object fields)
  | filter {fields : List (Text × Data)} {title : Text}
      (type : get? fields "queryType" = some (.text "transactions"))
      (titled : get? fields "title" = some (.text title))
      (present : ((get? fields "transactionFilter").getD .null).isPresent = true)
      (not_object : ((get? fields "transactionFilter").getD .null).isObject = false) :
      Unfit (.object fields)
  | metadata {fields filter : List (Text × Data)} {title : Text}
      (type : get? fields "queryType" = some (.text "transactions"))
      (titled : get? fields "title" = some (.text title))
      (given : (get? fields "transactionFilter").getD .null = .object filter)
      (not_notable : Metadata.isNotable ((get? filter "metadata").getD .null) = false) :
      Unfit (.object fields)

theorem strays_balance {fields : List (Text × Data)} :
    Strays (Inquiry.balanceOfData (.object fields)) ↔
      ((get? fields "addressFilters").getD .null).isListable = false := by
  rw [Inquiry.balanceOfData, Data.memberOr_object, Data.memberOr_object]
  exact strays_map.trans Data.strays_sequence

/-- Read a question for transactions from its filter. -/
def ofFilter (filter : Data) : Except Fault Inquiry := do
  let metadata ← filter.memberOr "metadata" .null
  let account ← filter.memberOr "account" .null
  if metadata.isPresent then
    return .transactions account (some (← Metadata.ofData metadata))
  return .transactions account none

theorem strays_ofFilter_object {filter : List (Text × Data)} :
    Strays (ofFilter (.object filter)) ↔
      Metadata.isNotable ((get? filter "metadata").getD .null) = false := by
  have opened (metadata account : Data) :
      Strays (if metadata.isPresent = true then
          Metadata.ofData metadata >>= fun noted => pure (Inquiry.transactions account (some noted))
        else pure (Inquiry.transactions account none)) ↔
        Metadata.isNotable metadata = false := by
    by_cases present : metadata.isPresent = true
    · rw [if_pos present]
      exact strays_map.trans Metadata.strays_ofData
    · rw [if_neg present, Metadata.isNotable_of_absent present]
      exact iff_of_false (not_strays_pure _) nofun
  exact opened _ _

theorem strays_ofFilter {filter : Data} (not_object : filter.isObject = false) :
    Strays (ofFilter filter) := by
  cases filter with
  | object fields => cases not_object
  | _ => exact nofun

theorem not_strays_ofFilter_nil : ¬Strays (ofFilter (.object [])) :=
  mt strays_ofFilter_object.mp nofun

theorem strays_transactions {fields : List (Text × Data)} :
    Strays (Inquiry.transactionsOfData (.object fields)) ↔
      (((get? fields "transactionFilter").getD .null).isPresent = true ∧
          ((get? fields "transactionFilter").getD .null).isObject = false) ∨
        ∃ filter, (get? fields "transactionFilter").getD .null = .object filter ∧
          Metadata.isNotable ((get? filter "metadata").getD .null) = false := by
  have opened : Inquiry.transactionsOfData (.object fields) =
      ofFilter (if ((get? fields "transactionFilter").getD .null).isPresent = true
        then (get? fields "transactionFilter").getD .null else .object []) := rfl
  rw [opened]
  generalize (get? fields "transactionFilter").getD .null = given
  cases given with
  | object filter =>
      -- An empty object counts as absent, but what stands in for it is empty, too.
      have chosen : (if (Data.object filter).isPresent = true then .object filter
          else .object []) = Data.object filter := by
        cases filter <;> rfl
      rw [chosen, strays_ofFilter_object]
      constructor
      · intro unnotable
        exact Or.inr ⟨filter, rfl, unnotable⟩
      · rintro (⟨-, ⟨⟩⟩ | ⟨_, ⟨rfl⟩, unnotable⟩)
        exact unnotable
  | null | bool b | int n | double d | text t | list items =>
      split <;> rename_i present
      · exact iff_of_true (strays_ofFilter rfl) (Or.inl ⟨present, rfl⟩)
      · refine iff_of_false not_strays_ofFilter_nil ?_
        rintro (⟨there, -⟩ | ⟨_, ⟨⟩, _⟩)
        exact present there

/-- Read what a query of a type asks for. -/
def inquiryOfData (type title : Text) (data : Data) : Except Fault Inquiry :=
  if type = "balance" then Inquiry.balanceOfData data
  else if type = "transactions" then Inquiry.transactionsOfData data
  else if type = "accounts" then Inquiry.accountsOfData title data
  else throw (.unknownQueryType title type)

theorem ofData_eq (data : Data) :
    ofData data = (do
      let type ← data.textMember "query" "queryType"
      let title ← data.textMember "query" "title"
      let description ← data.memberOr "description" (.text [])
      Query.mk title description <$> inquiryOfData type title data) := by
  unfold ofData inquiryOfData
  refine bind_congr fun type => bind_congr fun title => bind_congr fun description => ?_
  dsimp only
  split
  · rfl
  · split
    · rfl
    · split <;> rfl

theorem strays_inquiryOfData {fields : List (Text × Data)} {type title : Text} :
    Strays (inquiryOfData type title (.object fields)) ↔
    (type = "balance" ∧ Strays (Inquiry.balanceOfData (.object fields))) ∨
      (type = "transactions" ∧ Strays (Inquiry.transactionsOfData (.object fields))) := by
  by_cases balance : type = "balance"
  · have other : type ≠ "transactions" := by
      rw [balance]
      decide
    rw [inquiryOfData, if_pos balance, and_iff_right balance, or_iff_left (mt And.left other)]
  by_cases transactions : type = "transactions"
  · rw [inquiryOfData, if_neg balance, if_pos transactions, and_iff_right transactions,
      or_iff_right (mt And.left balance)]
  · rw [inquiryOfData, if_neg balance, if_neg transactions, or_iff_right (mt And.left balance)]
    refine iff_of_false ?_ (mt And.left transactions)
    split
    · rw [Inquiry.accountsOfData, strays_map, Data.strays_textMember]
      exact nofun
    · exact fun stray => stray rfl

theorem strays_ofData {data : Data} : Strays (ofData data) ↔ Unfit data := by
  have object (fields : List (Text × Data)) (type : Text) : Strays (do
        let title ← (Data.object fields).textMember "query" "title"
        let description ← (Data.object fields).memberOr "description" (.text [])
        Query.mk title description <$> inquiryOfData type title (.object fields)) ↔
      ∃ title, get? fields "title" = some (.text title) ∧
        ((type = "balance" ∧ Strays (Inquiry.balanceOfData (.object fields))) ∨
          (type = "transactions" ∧ Strays (Inquiry.transactionsOfData (.object fields)))) := by
    rw [Data.strays_textMember_object_bind]
    refine exists_congr fun title => and_congr_right fun _ => ?_
    rw [Data.memberOr_object]
    exact strays_map.trans strays_inquiryOfData
  rw [ofData_eq, Data.strays_textMember_bind]
  constructor
  · rintro (closed | ⟨fields, type, rfl, typed, stray⟩)
    · exact .unsearchable closed
    · obtain ⟨title, titled, ⟨rfl, asked⟩ | ⟨rfl, asked⟩⟩ := (object fields type).mp stray
      · exact .unlisted typed titled (strays_balance.mp asked)
      · obtain ⟨present, other⟩ | ⟨filter, given, unnotable⟩ := strays_transactions.mp asked
        · exact .filter typed titled present other
        · exact .metadata typed titled given unnotable
  · rintro (closed | ⟨typed, titled, unlisted⟩ | ⟨typed, titled, present, other⟩ |
      ⟨typed, titled, given, unnotable⟩)
    · exact Or.inl closed
    · exact Or.inr ⟨_, _, rfl, typed, (object _ _).mpr
        ⟨_, titled, Or.inl ⟨rfl, strays_balance.mpr unlisted⟩⟩⟩
    · exact Or.inr ⟨_, _, rfl, typed, (object _ _).mpr
        ⟨_, titled, Or.inr ⟨rfl, strays_transactions.mpr (Or.inl ⟨present, other⟩)⟩⟩⟩
    · exact Or.inr ⟨_, _, rfl, typed, (object _ _).mpr
        ⟨_, titled, Or.inr ⟨rfl, strays_transactions.mpr (Or.inr ⟨_, given, unnotable⟩)⟩⟩⟩

end Query

namespace ShownAccount

open Entries

/-- The ways in which a value is no account, past what the reader of accounts looks out for. -/
inductive Unfit : Data → Prop
  | unsearchable {data : Data} (not_searchable : data.isSearchable "address" = false) :
      Unfit data
  | color {fields : List (Text × Data)} {address name : Text}
      (addressed : get? fields "address" = some (.text address)) (nonempty : address ≠ [])
      (named : get? fields "name" = some (.text name))
      (not_scalar : ((get? fields "color").getD (.text "slate")).isScalar = false) :
      Unfit (.object fields)

theorem strays_colorOfData {color : Data} :
    Strays (colorOfData color) ↔ color.isScalar = false := by
  cases color with
  | text t =>
      unfold colorOfData
      dsimp only
      split <;> simp [Data.isScalar, Fault.kind]
  | _ => simp [colorOfData, Data.isScalar, Fault.kind]

theorem strays_ofData {data : Data} : Strays (ofData data) ↔ Unfit data := by
  have colored (fields : List (Text × Data)) (address name : Text) (description color : Data) :
      Strays (if address.isEmpty = true then throw .emptyAddress
        else ShownAccount.mk address name description <$> colorOfData color) ↔
      address ≠ [] ∧ color.isScalar = false := by
    cases address with
    | nil => exact iff_of_false (fun stray => stray rfl) nofun
    | cons first rest =>
        rw [and_iff_right (List.cons_ne_nil _ _)]
        exact strays_map.trans strays_colorOfData
  have object (fields : List (Text × Data)) (address : Text) : Strays (do
        let name ← (Data.object fields).textMember "account" "name"
        let description ← (Data.object fields).memberOr "description" (.text [])
        let color ← (Data.object fields).memberOr "color" (.text "slate")
        if address.isEmpty then throw .emptyAddress
        return (⟨address, name, description, ← colorOfData color⟩ : ShownAccount)) ↔
      ∃ name, get? fields "name" = some (.text name) ∧ address ≠ [] ∧
        ((get? fields "color").getD (.text "slate")).isScalar = false := by
    rw [Data.strays_textMember_object_bind]
    refine exists_congr fun name => and_congr_right fun _ => ?_
    exact colored fields address name _ _
  rw [ofData, Data.strays_textMember_bind]
  constructor
  · rintro (closed | ⟨fields, address, rfl, addressed, stray⟩)
    · exact .unsearchable closed
    · obtain ⟨name, named, nonempty, parted⟩ := (object fields address).mp stray
      exact .color addressed nonempty named parted
  · rintro (closed | ⟨addressed, nonempty, named, parted⟩)
    · exact Or.inl closed
    · exact Or.inr ⟨_, _, rfl, addressed, (object _ _).mpr ⟨_, named, nonempty, parted⟩⟩

end ShownAccount

namespace Step

open Entries

/-- The ways in which a value is no step, past what the reader of steps looks out for. Its
messages name the label of the step, even one that is no text. -/
inductive Unfit : Data → Prop
  | notObject {data : Data} (not_object : data.isObject = false) : Unfit data
  | label {fields : List (Text × Data)} {number : Int}
      (held : number ∈ ((get? fields "label").getD (.text "?")).numbers)
      (too_long : Decimal.fits number = false) :
      Unfit (.object fields)
  | queries {fields : List (Text × Data)} {type label script : Text}
      (typed : get? fields "txType" = some (.text type))
      (labelled : get? fields "label" = some (.text label))
      (scripted : get? fields "numscript" = some (.text script))
      (unfit : UnfitRow Query.ofData Query.Unfit ((get? fields "queries").getD .null)) :
      Unfit (.object fields)

theorem strays_of_not_object {data : Data} (not_object : data.isObject = false) :
    Strays (ofData data) := by
  cases data with
  | object fields => cases not_object
  | _ => exact nofun

theorem strays_ofData {data : Data} : Strays (ofData data) ↔ Unfit data := by
  cases data with
  | object fields =>
      have ends (queries : List Query) (type label script : Text) (description : Data) :
          Strays (pure (⟨type, label, description, script, queries⟩ : Step)) ↔ False :=
        iff_of_false (not_strays_pure _) id
      rw [ofData, Data.memberOr_object_bind, strays_bind, Data.strays_written]
      simp only [Data.memberOr_object_bind, Data.strays_textMember_object_bind,
        strays_row_bind (fun _ => Query.strays_ofData) (fun _ => ends _ _ _ _ _), and_false,
        or_false]
      constructor
      · rintro (⟨number, held, tooLong⟩ |
          ⟨place, -, type, typed, label, labelled, script, scripted, unfit⟩)
        · exact .label held tooLong
        · exact .queries typed labelled scripted unfit
      · rintro (⟨⟨⟩⟩ | ⟨held, tooLong⟩ | ⟨typed, labelled, scripted, unfit⟩)
        · exact Or.inl ⟨_, held, tooLong⟩
        · exact Or.inr ⟨_, by rw [labelled]; rfl, _, typed, _, labelled, _, scripted, unfit⟩
  | _ => exact iff_of_true (strays_of_not_object rfl) (.notObject rfl)

end Step

namespace Demo

open Entries

/-- Whether the head of a configuration can be read: variables, if any, in an object, and
texts as identifier and name. -/
structure IsHeaded (fields : List (Text × Data)) : Prop where
  vars : ∃ vars, variablesOfData ((get? fields "variables").getD .null) = .ok vars
  id : ∃ id, get? fields "id" = some (.text id)
  name : ∃ name, get? fields "name" = some (.text name)

/-- The ways in which a value is no configuration, past what the readers look out for. -/
inductive Unfit : Data → Prop
  | accounts {fields : List (Text × Data)} (headed : IsHeaded fields)
      (unfit : UnfitRow ShownAccount.ofData ShownAccount.Unfit
        ((get? fields "accounts").getD .null)) :
      Unfit (.object fields)
  | steps {fields : List (Text × Data)} (headed : IsHeaded fields)
      (accounts : ReadsRow ShownAccount.ofData ((get? fields "accounts").getD .null))
      (unfit : UnfitRow Step.ofData Step.Unfit ((get? fields "transactionSteps").getD .null)) :
      Unfit (.object fields)
  | queries {fields : List (Text × Data)} (headed : IsHeaded fields)
      (accounts : ReadsRow ShownAccount.ofData ((get? fields "accounts").getD .null))
      (steps : ReadsRow Step.ofData ((get? fields "transactionSteps").getD .null))
      (unfit : UnfitRow Query.ofData Query.Unfit ((get? fields "usefulQueries").getD .null)) :
      Unfit (.object fields)

theorem Unfit.isObject {data : Data} (unfit : Unfit data) : data.isObject = true := by
  cases unfit <;> rfl

theorem not_strays_variablesOfData {value : Data} : ¬Strays (variablesOfData value) := by
  unfold variablesOfData
  split
  · exact not_strays_ok _
  · split
    · exact not_strays_ok _
    · exact fun stray => stray rfl

theorem strays_ofData {data : Data} : Strays (ofData data) ↔ Unfit data := by
  cases data with
  | object fields =>
      have rows (accounts steps queries description : Data) (id name : Text)
          (vars : Entries Text Data) :
          Strays (do
            let accounts ← (← accounts.sequence).mapM ShownAccount.ofData
            let steps ← (← steps.sequence).mapM Step.ofData
            let usefulQueries ← (← queries.sequence).mapM Query.ofData
            return (⟨id, name, description, accounts, vars, steps, usefulQueries⟩ : Demo)) ↔
          UnfitRow ShownAccount.ofData ShownAccount.Unfit accounts ∨
            (ReadsRow ShownAccount.ofData accounts ∧ (UnfitRow Step.ofData Step.Unfit steps ∨
              (ReadsRow Step.ofData steps ∧ (UnfitRow Query.ofData Query.Unfit queries ∨
                (ReadsRow Query.ofData queries ∧ False))))) :=
        strays_row_bind (fun _ => ShownAccount.strays_ofData) fun _ =>
          strays_row_bind (fun _ => Step.strays_ofData) fun _ =>
            strays_row_bind (fun _ => Query.strays_ofData) fun _ =>
              iff_of_false (not_strays_pure _) False.elim
      simp only [ofData, Data.memberOr_object_bind, Data.strays_textMember_object_bind,
        strays_bind_of_not not_strays_variablesOfData, rows]
      constructor
      · rintro ⟨vars, read, id, identified, name, named, accounts |
          ⟨accounts, steps | ⟨steps, queries | ⟨_, ⟨⟩⟩⟩⟩⟩
        · exact .accounts ⟨⟨vars, read⟩, ⟨id, identified⟩, ⟨name, named⟩⟩ accounts
        · exact .steps ⟨⟨vars, read⟩, ⟨id, identified⟩, ⟨name, named⟩⟩ accounts steps
        · exact .queries ⟨⟨vars, read⟩, ⟨id, identified⟩, ⟨name, named⟩⟩ accounts steps queries
      · rintro (⟨⟨⟨vars, read⟩, ⟨id, identified⟩, ⟨name, named⟩⟩, unfit⟩ |
          ⟨⟨⟨vars, read⟩, ⟨id, identified⟩, ⟨name, named⟩⟩, accounts, unfit⟩ |
          ⟨⟨⟨vars, read⟩, ⟨id, identified⟩, ⟨name, named⟩⟩, accounts, steps, unfit⟩)
        · exact ⟨vars, read, id, identified, name, named, Or.inl unfit⟩
        · exact ⟨vars, read, id, identified, name, named, Or.inr ⟨accounts, Or.inl unfit⟩⟩
        · exact ⟨vars, read, id, identified, name, named,
            Or.inr ⟨accounts, Or.inr ⟨steps, Or.inl unfit⟩⟩⟩
  | _ => exact iff_of_false (fun stray => stray rfl) (mt Unfit.isObject Bool.false_ne_true)

/-- When a configuration can be loaded or is refused as one: just when no part is unfit where
the reader comes to it. -/
theorem ofData_loads_or_refuses (data : Data) :
    ((∃ demo, ofData data = .ok demo) ∨
        ∃ fault, ofData data = .error fault ∧ fault.kind = .configuration) ↔ ¬Unfit data := by
  rw [← strays_ofData, not_strays_iff]

/-- A configuration that has a number for its only step. -/
def numbered : Data :=
  .object [("id", .text "x"), ("name", .text "X"), ("transactionSteps", .list [.int 5])]

/-- A number among the steps is neither loaded nor refused: it is asked for a field. -/
theorem numbered_strays :
    ofData numbered = .error .noFields ∧
      ¬((∃ demo, ofData numbered = .ok demo) ∨
        ∃ fault, ofData numbered = .error fault ∧ fault.kind = .configuration) := by
  have failed : ofData numbered = .error .noFields := rfl
  refine ⟨failed, ?_⟩
  rw [failed]
  rintro (⟨_, ⟨⟩⟩ | ⟨_, ⟨rfl⟩, ⟨⟩⟩)

end Demo

end DoubleEntry
