import DoubleEntry.Proofs.Execution.Refusals
import DoubleEntry.Proofs.Metadata

/-!
# The effect of a run

A run that succeeds logs one transaction with the postings of its sends, opens the accounts
that these and the notes of the script name, writes balances where money moved and the notes
where they are set. Everything else stays as it was: a source that was only asked leaves no
trace.
-/

namespace DoubleEntry

namespace Ledger

variable (ledger : Ledger)

/-! ## Accounts in the order in which they come -/

theorem keys_openAccount (address : Text) :
    (ledger.openAccount address).accounts.keys =
      Entries.including ledger.accounts.keys [Address.normalize address] := by
  rw [Entries.including_singleton]
  by_cases there : ledger.accounts.hasKey (Address.normalize address) = true
  · rw [if_pos ((Entries.hasKey_iff_mem _ _).mp there)]
    simp [openAccount, there]
  · have absent : Address.normalize address ∉ ledger.accounts.keys :=
      mt (Entries.hasKey_iff_mem _ _).mpr there
    simp [openAccount, there, Entries.keys_put, absent]

theorem keys_updateAccount (address : Text) (change : Account → Account) :
    (ledger.updateAccount address change).accounts.keys = ledger.accounts.keys := by
  cases found : ledger.accounts.get? address with
  | none => rw [updateAccount_of_none ledger found]
  | some account =>
      have there : address ∈ ledger.accounts.keys :=
        (Entries.hasKey_iff_mem _ _).mp ((Entries.hasKey_iff _ _).mpr ⟨account, found⟩)
      rw [updateAccount_of_some ledger found, Entries.keys_put, if_pos there]

theorem keys_annotate (address : Text) (key value : Data) :
    (ledger.annotate address key value).accounts.keys =
      Entries.including ledger.accounts.keys [Address.normalize address] := by
  unfold annotate
  rw [keys_updateAccount, keys_openAccount, Address.normalize_normalize]

/-- A transfer opens its source and then its destination. -/
theorem keys_transfer {posting : Posting} (full : posting.isFull) :
    (ledger.transfer posting).accounts.keys =
      Entries.including ledger.accounts.keys [posting.source, posting.destination] := by
  rw [transfer, adjust, setBalance, keys_updateAccount, adjust, setBalance, keys_updateAccount,
    openEnds, keys_openAccount, keys_openAccount, full.source, full.destination,
    ← Entries.including_append]
  rfl

theorem keys_transferAll {postings : List Posting} (full : ∀ posting ∈ postings, posting.isFull) :
    (ledger.transferAll postings).accounts.keys =
      Entries.including ledger.accounts.keys
        (postings.flatMap fun posting => [posting.source, posting.destination]) := by
  induction postings generalizing ledger with
  | nil => exact (Entries.including_nil _).symm
  | cons posting rest ih =>
      obtain ⟨here, later⟩ := List.forall_mem_cons.mp full
      rw [transferAll_cons, ih _ later, keys_transfer ledger here, ← Entries.including_append]
      rfl

/-! ## Balances where nothing moves -/

theorem get?_balances_adjust {address other asset otherAsset : Text} {amount : Int}
    (present : ledger.accounts.hasKey address = true)
    (elsewhere : ¬(asset = otherAsset ∧ address = Address.normalize other)) :
    ((ledger.adjust address asset amount).balances other).get? otherAsset =
      (ledger.balances other).get? otherAsset := by
  rw [adjust, balances_setBalance ledger present]
  by_cases here : address = Address.normalize other
  · have unlike : asset ≠ otherAsset := fun same => elsewhere ⟨same, here⟩
    rw [if_pos here, Entries.get?_put, if_neg unlike]
  · rw [if_neg here]

theorem get?_balances_transfer {posting : Posting} (full : posting.isFull) {address asset : Text}
    (elsewhere : ¬posting.concerns (Address.normalize address) asset) :
    ((ledger.transfer posting).balances address).get? asset =
      (ledger.balances address).get? asset := by
  have there : ((ledger.openEnds posting).adjust posting.source posting.asset
      (-posting.amount)).accounts.hasKey posting.destination = true := by
    rw [hasKey_adjust]
    exact hasKey_destination ledger full
  rw [transfer,
    get?_balances_adjust _ there fun both => elsewhere ⟨both.1, Or.inr both.2⟩,
    get?_balances_adjust _ (hasKey_source ledger full) fun both => elsewhere ⟨both.1, Or.inl both.2⟩,
    balances_openEnds]

theorem get?_balances_transferAll {postings : List Posting}
    (full : ∀ posting ∈ postings, posting.isFull) {address asset : Text}
    (elsewhere : ∀ posting ∈ postings, ¬posting.concerns (Address.normalize address) asset) :
    ((ledger.transferAll postings).balances address).get? asset =
      (ledger.balances address).get? asset := by
  induction postings generalizing ledger with
  | nil => rfl
  | cons posting rest ih =>
      obtain ⟨here, later⟩ := List.forall_mem_cons.mp full
      obtain ⟨apart, further⟩ := List.forall_mem_cons.mp elsewhere
      rw [transferAll_cons, ih _ later further, get?_balances_transfer ledger here apart]

/-! ## What is noted on accounts -/

/-- What is noted on an account under a key, if anything is. -/
def noted? (address : Text) (key : Data) : Option Data :=
  (ledger.account? address).bind fun account => account.metadata.get? key

theorem noted?_openAccount (address other : Text) (key : Data) :
    (ledger.openAccount address).noted? other key = ledger.noted? other key := by
  unfold noted? account?
  rw [get?_openAccount]
  split
  · next fresh =>
      rw [fresh.2]
      rfl
  · rfl

/-- A change that is not about what is noted leaves it. -/
theorem noted?_updateAccount {change : Account → Account}
    (keeps : ∀ account, (change account).metadata = account.metadata) (address other : Text)
    (key : Data) : (ledger.updateAccount address change).noted? other key = ledger.noted? other key := by
  unfold noted? account?
  rw [get?_updateAccount]
  split
  · cases ledger.accounts.get? (Address.normalize other) with
    | none => rfl
    | some account => exact congrArg (Metadata.get? · key) (keeps account)
  · rfl

theorem noted?_transferAll (postings : List Posting) (address : Text) (key : Data) :
    (ledger.transferAll postings).noted? address key = ledger.noted? address key := by
  refine @transferAll_keeps (fun reached => reached.noted? address key = ledger.noted? address key)
    ?_ ?_ ledger rfl postings
  · intro reached other same
    rw [noted?_openAccount, same]
  · intro reached other asset amount same
    rw [setBalance, noted?_updateAccount, same]
    exact fun _ => rfl

theorem noted?_annotate (address other : Text) (key value : Text) (asked : Data) :
    (ledger.annotate address (.text key) (.text value)).noted? other asked =
      if Address.normalize address = Address.normalize other ∧ Data.text key = asked
      then some (.text value) else ledger.noted? other asked := by
  have before := noted?_openAccount ledger (Address.normalize address) other asked
  have there := (hasKey_openAccount ledger (Address.normalize address) _).mpr (Or.inl rfl)
  obtain ⟨account, found⟩ := (Entries.hasKey_iff _ _).mp there
  rw [Address.normalize_normalize] at found
  unfold annotate
  dsimp only
  rw [noted?, account?, get?_updateAccount]
  by_cases here : Address.normalize address = Address.normalize other
  · rw [noted?, account?, ← here, found] at before
    rw [if_pos here, ← here, found]
    simp only [Option.map_some, Option.bind_some] at before ⊢
    rw [Metadata.get?_put_text, before]
    simp
  · rw [if_neg here, if_neg (not_and_of_not_left _ here)]
    exact before

/-! ## Notes in a row -/

/-- The notes of a row on one account, however its address is spelled. -/
def notesOn (address : Text) (notes : List (Text × Text × Text)) : List (Text × Text) :=
  (notes.filter fun note => Address.normalize note.1 = Address.normalize address).map Prod.snd

/-- Notes that are all written leave accounts open in the order in which they were named, each
with the last text under each key, and no balance changed. -/
structure Annotates (ledger : Ledger) (notes : List (Text × Text × Text)) (after : Ledger) :
    Prop where
  frame : after = { ledger with accounts := after.accounts }
  keys : after.accounts.keys = Entries.including ledger.accounts.keys
    (notes.map fun note => Address.normalize note.1)
  balances : ∀ address, after.balances address = ledger.balances address
  noted : ∀ address key, after.noted? address key =
    (Metadata.last? (notesOn address notes) key).or (ledger.noted? address key)

theorem Annotates.cons {reference key value : Text} {rest : List (Text × Text × Text)}
    {after : Ledger}
    (annotates : (ledger.annotate reference (.text key) (.text value)).Annotates rest after) :
    ledger.Annotates ((reference, key, value) :: rest) after where
  frame := by
    have later := annotates.frame
    rw [annotate_frame] at later
    exact later
  keys := by
    rw [annotates.keys, keys_annotate, ← Entries.including_append]
    rfl
  balances := by
    intro address
    rw [annotates.balances, balances_annotate]
  noted := by
    intro address asked
    rw [annotates.noted, noted?_annotate]
    by_cases here : Address.normalize reference = Address.normalize address
    · have listed : notesOn address ((reference, key, value) :: rest) =
          (key, value) :: notesOn address rest := by simp [notesOn, here]
      rw [listed, Metadata.last?_cons, Option.or_assoc]
      by_cases same : Data.text key = asked <;> simp [here, same]
    · have unlisted : notesOn address ((reference, key, value) :: rest) = notesOn address rest := by
        simp [notesOn, here]
      rw [unlisted, if_neg (not_and_of_not_left _ here)]

theorem annotates_of_ok {notes : List (Text × Text × Text)} {after : Ledger}
    (h : ledger.annotateAll notes = (.ok (), after)) : ledger.Annotates notes after := by
  induction notes generalizing ledger with
  | nil =>
      obtain rfl := (Prod.mk.inj h).2
      exact ⟨rfl, (Entries.including_nil _).symm, fun _ => rfl, fun _ _ => rfl⟩
  | cons note rest ih =>
      obtain ⟨reference, key, value⟩ := note
      rw [annotateAll] at h
      by_cases free : Script.isVariable reference
      · rw [Script.resolve_variable free] at h
        cases h
      · rw [Script.resolve_address free] at h
        have later := ih _ h
        have same : ledger.annotate (Address.normalize reference) (.text key) (.text value) =
            ledger.annotate reference (.text key) (.text value) := by
          unfold annotate
          rw [Address.normalize_normalize]
        rw [same] at later
        exact later.cons

/-! ## The postings of a plan -/

theorem isFull_of_sendPostings {overlay : Overlay} {vars : Variables} {send : Send}
    (formed : send.IsWellFormed) {postings : List Posting}
    (h : ledger.sendPostings overlay vars send = .ok postings) :
    ∀ posting ∈ postings, posting.isFull := by
  obtain ⟨total, draws, allocations, asked, drawn, split, paired⟩ := sendPostings_eq_ok.mp h
  rcases pays_of_pair formed drawn split paired with ⟨-, rfl⟩ | ⟨-, pays⟩
  · exact nofun
  · exact pays.full

theorem isFull_of_executeSends {sends : List Send} (formed : ∀ send ∈ sends, send.IsWellFormed)
    {overlay last : Overlay} {postings : List Posting}
    (h : ledger.executeSends [] overlay sends = .ok (postings, last)) :
    ∀ posting ∈ postings, posting.isFull := by
  intro posting mem
  obtain ⟨send, listed, layer, here, worked, found⟩ := mem_executeSends h mem
  exact isFull_of_sendPostings ledger (formed send listed) worked posting found

/-- A plan is the postings of its sends in order, each worked out on top of those before. -/
theorem executeSends_parts {vars : Variables} {sends : List Send} {overlay last : Overlay}
    {postings : List Posting} (h : ledger.executeSends vars overlay sends = .ok (postings, last)) :
    ∃ parts : List (List Posting), postings = parts.flatten ∧ parts.length = sends.length ∧
      ∀ (place : Nat) (send : Send), sends[place]? = some send → ∃ part later,
        parts[place]? = some part ∧
          ledger.executeSend ((parts.take place).flatten.foldl Overlay.post overlay) vars send =
            .ok (part, later) := by
  induction sends generalizing overlay postings with
  | nil =>
      obtain ⟨rfl, -⟩ := executeSends_nil.mp h
      exact ⟨[], rfl, rfl, nofun⟩
  | cons send rest ih =>
      obtain ⟨here, others, worked, behind, rfl⟩ := executeSends_cons.mp h
      obtain ⟨parts, rfl, same, each⟩ := ih behind
      refine ⟨here :: parts, rfl, congrArg (· + 1) same, fun place found listed => ?_⟩
      cases place with
      | zero =>
          obtain rfl := Option.some.inj listed
          exact ⟨here, _, rfl, executeSend_eq_ok.mpr ⟨worked, rfl⟩⟩
      | succ place =>
          obtain ⟨part, later, there, made⟩ := each place found listed
          refine ⟨part, later, there, ?_⟩
          rw [List.take_succ_cons, List.flatten_cons, List.foldl_append]
          exact made

end Ledger

/-! ## The whole run -/

namespace Script

/-- What a script notes on its transaction, in order. -/
def transactionTexts (script : Script) : List (Text × Text) :=
  script.notes.filterMap fun
    | .transaction key value => some (key, value)
    | .account _ _ _ => none

theorem transactionNotes_eq (script : Script) :
    script.transactionNotes = Metadata.noteAll [] script.transactionTexts := by
  unfold transactionNotes transactionTexts Metadata.ofPairs Metadata.noteAll
  rw [List.foldl_filterMap, List.foldl_filterMap]
  refine congrArg (fun step => script.notes.foldl step []) (funext fun metadata => funext fun note => ?_)
  cases note <;> rfl

end Script

namespace Ledger

variable {ledger after : Ledger} {text : Text} {vars : Variables} {tx : Transaction}

theorem run_eq_ok (h : ledger.run text vars = (.ok tx, after)) :
    ∃ filled proposal committed, Placeholder.substitute vars text = .ok filled ∧
      ledger.propose (Script.ofText filled) = .ok proposal ∧
      ledger.commit proposal = .ok (tx, committed) ∧
      committed.annotateAll (Script.ofText filled).accountNotes = (.ok (), after) := by
  rw [run_eq] at h
  cases drafted : ledger.draft text vars with
  | error fault =>
      rw [drafted] at h
      cases h
  | ok draft =>
      obtain ⟨script, proposal⟩ := draft
      obtain ⟨filled, spelled, rfl, proposed⟩ := draft_eq_ok.mp drafted
      rw [drafted] at h
      dsimp only [conclude] at h
      cases done : ledger.commitAloud proposal with
      | mk answer committed =>
          rw [done] at h
          cases answer with
          | error fault => cases h
          | ok answer =>
              obtain ⟨told, rfl⟩ := Prod.mk.inj h
              obtain ⟨_, noted, rfl⟩ := map_eq_ok.mp told
              exact ⟨filled, proposal, committed, spelled, proposed, (commitAloud_eq_ok done).1,
                Prod.ext noted rfl⟩

/-- The whole effect of a run that succeeds. Its transaction is logged: it has the postings that
the sends are worked out to, in order, and under each key that the script notes on it, in the
order in which they first come, the text noted last. A balance is another only where a posting
takes or gives its asset. The accounts are those from before, then those that postings name,
then those that notes name, each once in the order in which they are first named. Under a key on
an account the text noted last stands, if one is noted there, and else what stood there before.
Nothing else changes. -/
theorem run_effect (h : ledger.run text vars = (.ok tx, after)) :
    ∃ filled, Placeholder.substitute vars text = .ok filled ∧
      after = { ledger with
        accounts := after.accounts
        log := ledger.log ++ [tx]
        nextId := ledger.nextId + 1 } ∧
      (∃ parts : List (List Posting), tx.postings = parts.flatten ∧
        parts.length = (Script.ofText filled).sends.length ∧
        ∀ (place : Nat) (send : Send), (Script.ofText filled).sends[place]? = some send →
          ∃ part later, parts[place]? = some part ∧
            ledger.executeSend ((parts.take place).flatten.foldl Overlay.post []) [] send =
              .ok (part, later)) ∧
      tx.metadata.map Prod.fst =
        ((Script.ofText filled).transactionTexts.map fun note => Data.text note.1).eraseDups ∧
      (∀ key, tx.metadata.get? key = Metadata.last? (Script.ofText filled).transactionTexts key) ∧
      (∀ address asset,
        (∀ posting ∈ tx.postings, ¬posting.concerns (Address.normalize address) asset) →
          (after.balances address).get? asset = (ledger.balances address).get? asset) ∧
      after.accounts.keys = Entries.including ledger.accounts.keys
        ((tx.postings.flatMap fun posting => [posting.source, posting.destination]) ++
          (Script.ofText filled).accountNotes.map fun note => Address.normalize note.1) ∧
      ∀ address key, after.noted? address key =
        (Metadata.last? (notesOn address (Script.ofText filled).accountNotes) key).or
          (ledger.noted? address key) := by
  obtain ⟨filled, proposal, committed, spelled, proposed, made, annotated⟩ := run_eq_ok h
  obtain ⟨postings, overlay, overdrafts, planned, -, rfl⟩ := propose_eq_ok.mp proposed
  have annotates := annotates_of_ok committed annotated
  have full := commit_isFull made
  have frame := commit_frame made
  have formed : ∀ send ∈ (Script.ofText filled).sends, send.IsWellFormed := by
    intro send mem
    obtain ⟨statement, read⟩ := Script.ofText_of_mem_sends mem
    exact Send.isWellFormed_ofText read
  have whole : tx.postings = postings := by
    rw [(commit_ok made).1]
    exact (List.map_congr_left (isFull_of_executeSends ledger formed planned)).trans
      (List.map_id' postings)
  have noted : tx.metadata = Metadata.noteAll [] (Script.ofText filled).transactionTexts := by
    rw [(commit_ok made).1, ← Script.transactionNotes_eq]
    rfl
  have reached : committed.accounts = (ledger.transferAll tx.postings).accounts := by rw [frame]
  refine ⟨filled, spelled, ?_, ?_, ?_, ?_, ?_, ?_, ?_⟩
  · rw [annotates.frame, frame]
  · rw [whole]
    exact executeSends_parts ledger planned
  · rw [noted, Metadata.keys_noteAll]
    exact Entries.including_of_nil _
  · intro key
    rw [noted, Metadata.get?_noteAll]
    exact Option.or_none
  · intro address asset elsewhere
    rw [annotates.balances, balances_eq, reached, ← balances_eq,
      get?_balances_transferAll ledger full elsewhere]
  · rw [annotates.keys, reached, keys_transferAll ledger full, ← Entries.including_append]
  · intro address key
    have before := noted?_transferAll ledger tx.postings address key
    rw [noted?, account?, ← reached] at before
    rw [annotates.noted]
    exact congrArg _ before

/-- A script whose first source has nothing to give, with a key that is noted twice and an
account that only a note names. -/
def annotating : Text :=
  "send [USD/2 5] ( source = { @a @world } destination = @b )\n" ++
    "set_tx_meta(\"k\", \"x\")\nset_tx_meta(\"k\", \"y\")\nset_account_meta(@c, \"n\", \"z\")"

/-- Its notes. -/
def annotations : List Note :=
  [.transaction "k" "x", .transaction "k" "y", .account "@c" "n" "z"]

theorem notes_annotating : (Script.ofText annotating).notes = annotations := by
  change Note.all annotating = annotations
  rw [Note.all, List.mergeSort_of_pairwise (by decide +kernel)]
  decide +kernel

/-- On an empty ledger it opens the accounts that get something, leaves out the source without
funds, and notes the texts that come last. -/
theorem run_annotating :
    ∃ tx after, (create (.text "main") none false).run annotating [] = (.ok tx, after) ∧
      after.log = [tx] ∧ after.accounts.keys = ["@world", "@b", "@c"] ∧
      tx.metadata.get? (.text "k") = some (.text "y") ∧
      after.noted? "@c" (.text "n") = some (.text "z") := by
  have posted : ((create (.text "main") none false).run annotating []).1.toOption.map
      Transaction.postings = some [⟨"@world", "@b", "USD/2", 5⟩] := by
    have same : Script.ofText annotating =
        { Script.ofText annotating with notes := annotations } := by rw [← notes_annotating]
    rw [run, Placeholder.substitute_nil]
    dsimp only
    rw [same]
    decide +kernel
  cases ran : (create (.text "main") none false).run annotating [] with
  | mk outcome after =>
      rw [ran] at posted
      cases outcome with
      | error fault => cases posted
      | ok tx =>
          have made : tx.postings = [⟨"@world", "@b", "USD/2", 5⟩] := Option.some.inj posted
          obtain ⟨filled, spelled, frame, -, -, noted, -, keys, noted'⟩ := run_effect ran
          obtain rfl : annotating = filled :=
            Except.ok.inj ((Placeholder.substitute_nil annotating).symm.trans spelled)
          refine ⟨tx, after, rfl, by rw [frame]; rfl, ?_, ?_, ?_⟩
          · rw [keys, made, Script.accountNotes, notes_annotating]
            decide +kernel
          · rw [noted, Script.transactionTexts, notes_annotating]
            decide +kernel
          · rw [noted', Script.accountNotes, notes_annotating]
            decide +kernel

end Ledger

end DoubleEntry
