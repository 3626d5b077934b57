import DoubleEntry.Proofs.Execution.Effect
import DoubleEntry.Proofs.Script.References

/-!
# Accounts that are booked to

A run books only to accounts that its filled script spells out. What is still a variable there
is refused, so no dollar sign is ever booked to. A placeholder in braces is no variable but a
part of its address, and is booked to as it stands.
-/

namespace DoubleEntry

/-! ## What references come to -/

theorem Script.not_isVariable_of_resolve {reference account : Text}
    (h : resolve [] reference = .ok account) : ¬isVariable reference := by
  intro free
  rw [resolve_variable free] at h
  cases h

/-- A reference of a script that means an account is this account's address. -/
theorem Script.resolve_reference {t reference account : Text}
    (mem : reference ∈ (ofText t).references) (h : resolve [] reference = .ok account) :
    account = reference ∧ (.char '$' : CodePoint) ∉ account := by
  have bound := not_isVariable_of_resolve h
  rw [resolve_address bound] at h
  obtain rfl := Except.ok.inj h
  obtain ⟨same, plain⟩ := (refersIn_ofText mem).isReference.address_of_not_variable bound
  rw [same]
  exact ⟨rfl, plain⟩

/-- In a split every share goes to what its reference means. -/
theorem Destination.splitLeft_accounts {vars : Variables} {total left : Int}
    {shares : List (Text × Option Text)} {allocations : List Allocation}
    (h : splitLeft vars total left shares = .ok allocations) :
    (shares.map Prod.fst).mapM (Script.resolve vars) =
      .ok (allocations.map Allocation.account) := by
  induction shares generalizing left allocations with
  | nil =>
      obtain rfl := Except.ok.inj h
      rfl
  | cons share rest ih =>
      obtain ⟨reference, portion⟩ := share
      obtain ⟨account, amount, others, found, -, -, later, rfl⟩ := splitLeft_cons h
      exact mapM_eq_ok.mpr (List.Forall₂.cons found (mapM_eq_ok.mp (ih later)))

namespace Ledger

variable {ledger after : Ledger} {text : Text} {vars : Variables} {tx : Transaction}

/-- The sides of a posting are what references of its send mean. -/
theorem sides_sendPostings {overlay : Overlay} {send : Send} {postings : List Posting}
    (worked : ledger.sendPostings overlay vars send = .ok postings) {posting : Posting}
    (mem : posting ∈ postings) : ∀ side ∈ [posting.source, posting.destination],
      ∃ reference ∈ send.references, Script.resolve vars reference = .ok side := by
  obtain ⟨total, draws, allocations, -, drawn, split, paired⟩ := sendPostings_eq_ok.mp worked
  obtain ⟨left, waterfall, -⟩ := draw_eq_ok.mp drawn
  obtain ⟨draw, given, allocation, taken, source, destination, -⟩ := mem_pair paired mem
  obtain ⟨giver, listed, allowed⟩ := mem_drawFrom waterfall given
  obtain ⟨taker, shared, found⟩ := (mem_of_mapM_eq_ok (Destination.splitLeft_accounts split)
    allocation.account).mp (List.mem_map_of_mem taken)
  rw [source, destination]
  refine List.forall_mem_cons.mpr ⟨?_, List.forall_mem_singleton.mpr ?_⟩
  · exact ⟨giver.account, List.mem_append_left _ (List.mem_map_of_mem listed), allowed.1⟩
  · exact ⟨taker, List.mem_append_right _ shared, found⟩

/-- In a plan no share is left for a variable. -/
theorem bound_of_executeSends {sends : List Send} {overlay last : Overlay}
    {postings : List Posting}
    (planned : ledger.executeSends [] overlay sends = .ok (postings, last)) :
    ∀ send ∈ sends, ∀ share ∈ Destination.live send.destinations, ¬Script.isVariable share.1 := by
  intro send mem share shared
  obtain ⟨parts, -, -, each⟩ := executeSends_parts ledger planned
  obtain ⟨place, listed⟩ := List.mem_iff_getElem?.mp mem
  obtain ⟨part, later, -, worked⟩ := each place send listed
  obtain ⟨total, draws, allocations, -, -, split, -⟩ :=
    sendPostings_eq_ok.mp (executeSend_eq_ok.mp worked).1
  obtain ⟨account, found⟩ := exists_mapM_ok_iff.mp ⟨_, Destination.splitLeft_accounts split⟩
    share.1 (List.mem_map_of_mem shared)
  exact Script.not_isVariable_of_resolve found

/-- Notes that are all written are none of them on a variable. -/
theorem bound_of_annotateAll {notes : List (Text × Text × Text)}
    (annotated : ledger.annotateAll notes = (.ok (), after)) :
    ∀ note ∈ notes, ¬Script.isVariable note.1 := by
  intro note mem free
  obtain ⟨reference, failed⟩ := annotateAll_variable ledger ⟨note, mem, free⟩
  rw [annotated] at failed
  cases failed

/-! ## What a run books to -/

/-- The accounts that are booked to: the sides of the postings of a transaction, and the accounts
that its script notes something on. -/
def bookedTo (tx : Transaction) (script : Script) : List Text :=
  (tx.postings.flatMap fun posting => [posting.source, posting.destination]) ++
    script.accountNotes.map fun note => Address.normalize note.1

section Committed

variable {script : Script} {proposal : Proposal} {committed : Ledger}
  (made : ledger.commit proposal = .ok (tx, committed))
  (annotated : committed.annotateAll script.accountNotes = (.ok (), after))
include made annotated

/-- The accounts behind a run are those from before and those that it booked to. -/
theorem keys_bookedTo : after.accounts.keys =
    Entries.including ledger.accounts.keys (bookedTo tx script) := by
  rw [(annotates_of_ok committed annotated).keys, commit_frame made,
    keys_transferAll ledger (commit_isFull made), ← Entries.including_append]
  rfl

/-- An account that a run does not book to is left as it was. -/
theorem unchanged_of_not_bookedTo {address : Text}
    (apart : Address.normalize address ∉ bookedTo tx script) :
    (∀ asset, after.balance address asset = ledger.balance address asset) ∧
      ∀ key, after.noted? address key = ledger.noted? address key := by
  have annotates := annotates_of_ok committed annotated
  have reached : committed.accounts = (ledger.transferAll tx.postings).accounts := by
    rw [commit_frame made]
  rw [bookedTo, List.mem_append, not_or] at apart
  obtain ⟨unposted, unnoted⟩ := apart
  constructor
  · intro asset
    have elsewhere : ∀ posting ∈ tx.postings,
        ¬posting.concerns (Address.normalize address) asset := by
      rintro posting mem ⟨-, side⟩
      refine unposted (List.mem_flatMap.mpr ⟨posting, mem, ?_⟩)
      rcases side with from_ | to_
      · exact List.mem_cons.mpr (Or.inl from_.symm)
      · exact List.mem_cons_of_mem _ (List.mem_singleton.mpr to_.symm)
    rw [balance_eq, balance_eq, annotates.balances, balances_eq, reached, ← balances_eq,
      get?_balances_transferAll ledger (commit_isFull made) elsewhere]
  · intro key
    have before := noted?_transferAll ledger tx.postings address key
    rw [noted?, account?, ← reached] at before
    have none : notesOn address script.accountNotes = [] := by
      rw [notesOn, List.map_eq_nil_iff, List.filter_eq_nil_iff]
      intro note mem same
      exact unnoted (List.mem_map.mpr ⟨note, mem, of_decide_eq_true same⟩)
    rw [annotates.noted, none]
    exact before

end Committed

/-- Whoever is booked to is referred to in the script. -/
theorem mem_references_of_mem_bookedTo {filled : Text} {proposal : Proposal} {committed : Ledger}
    (proposed : ledger.propose (Script.ofText filled) = .ok proposal)
    (made : ledger.commit proposal = .ok (tx, committed))
    (annotated : committed.annotateAll (Script.ofText filled).accountNotes = (.ok (), after))
    {account : Text} (mem : account ∈ bookedTo tx (Script.ofText filled)) :
    account ∈ (Script.ofText filled).references ∧ (.char '$' : CodePoint) ∉ account := by
  have meant {reference : Text} (listed : reference ∈ (Script.ofText filled).references)
      {account : Text} (found : Script.resolve [] reference = .ok account) :
      account ∈ (Script.ofText filled).references ∧ (.char '$' : CodePoint) ∉ account := by
    obtain ⟨rfl, plain⟩ := Script.resolve_reference listed found
    exact ⟨listed, plain⟩
  rcases List.mem_append.mp mem with posted | noted
  · obtain ⟨postings, overlay, overdrafts, planned, -, rfl⟩ := propose_eq_ok.mp proposed
    obtain ⟨posting, recorded, side⟩ := List.mem_flatMap.mp posted
    rw [(commit_ok made).1] at recorded
    obtain ⟨given, worked, rfl⟩ := List.mem_map.mp recorded
    obtain ⟨send, sent, layer, here, paid, inside⟩ := mem_executeSends planned worked
    have spelled : account ∈ [given.source, given.destination].map Address.normalize := side
    obtain ⟨place, which, rfl⟩ := List.mem_map.mp spelled
    obtain ⟨reference, named, found⟩ := sides_sendPostings paid inside place which
    -- The record spells addresses in full, as what a reference means is spelled already.
    rw [Script.resolve_isFull found]
    exact meant (List.mem_append_left _ (List.mem_flatMap.mpr ⟨send, sent, named⟩)) found
  · obtain ⟨note, listed, rfl⟩ := List.mem_map.mp noted
    have bound := bound_of_annotateAll annotated note listed
    have named : note.1 ∈ (Script.ofText filled).references :=
      List.mem_append_right _ (List.mem_map_of_mem listed)
    exact meant named (Script.resolve_address bound)

/-- A run that succeeds leaves no share and no note for a variable, and books only to accounts
that its filled script refers to, each just as its reference stands in the text. No dollar sign is
among their characters, and no brace either if none stands in a reference. The other accounts keep
their balances and what is noted on them. -/
theorem run_books_to_references (h : ledger.run text vars = (.ok tx, after)) :
    ∃ filled, Placeholder.substitute vars text = .ok filled ∧
      let script := Script.ofText filled
      (∀ send ∈ script.sends, ∀ share ∈ Destination.live send.destinations,
        ¬Script.isVariable share.1) ∧
      (∀ note ∈ script.accountNotes, ¬Script.isVariable note.1) ∧
      (∀ account ∈ bookedTo tx script, account ∈ script.references ∧
        Script.RefersIn filled account ∧ (.char '$' : CodePoint) ∉ account) ∧
      ((∀ reference ∈ script.references,
          (.char '{' : CodePoint) ∉ reference ∧ (.char '}' : CodePoint) ∉ reference) →
        ∀ account ∈ bookedTo tx script, ∀ c ∈ account, c ≠ '$' ∧ c ≠ '{' ∧ c ≠ '}') ∧
      after.accounts.keys = Entries.including ledger.accounts.keys (bookedTo tx script) ∧
      ∀ address, Address.normalize address ∉ bookedTo tx script →
        (∀ asset, after.balance address asset = ledger.balance address asset) ∧
          ∀ key, after.noted? address key = ledger.noted? address key := by
  obtain ⟨filled, proposal, committed, spelled, proposed, made, annotated⟩ := run_eq_ok h
  have referred {account : Text} (mem : account ∈ bookedTo tx (Script.ofText filled)) :=
    mem_references_of_mem_bookedTo proposed made annotated mem
  refine ⟨filled, spelled, ?_, bound_of_annotateAll annotated, fun account mem => ?_,
    fun unbraced account mem c inside => ?_, keys_bookedTo made annotated,
    fun address apart => unchanged_of_not_bookedTo made annotated apart⟩
  · obtain ⟨postings, overlay, overdrafts, planned, -, -⟩ := propose_eq_ok.mp proposed
    exact bound_of_executeSends planned
  · obtain ⟨listed, plain⟩ := referred mem
    exact ⟨listed, Script.refersIn_ofText listed, plain⟩
  · obtain ⟨listed, plain⟩ := referred mem
    obtain ⟨opening, closing⟩ := unbraced account listed
    refine ⟨?_, ?_, ?_⟩
    all_goals
      rintro rfl
      contradiction

/-- A send to an address with a placeholder in braces. -/
def walletPayment : Text :=
  "send [USD/2 1] ( source = @world destination = @users:\x7bID\x7d:wallet )"

/-- With a value for the placeholder it books to the address that is filled in. -/
theorem run_walletPayment :
    let ledger := create (.text "main") none false
    let filled : Text := "send [USD/2 1] ( source = @world destination = @users:7:wallet )"
    ∃ tx after, ledger.run walletPayment [("ID", .text "7")] = (.ok tx, after) ∧
      (∀ account ∈ bookedTo tx (Script.ofText filled), ∀ c ∈ account,
        c ≠ '$' ∧ c ≠ '{' ∧ c ≠ '}') ∧
      after.accounts.keys = ["@world", "@users:7:wallet"] ∧
      after.balance "@users:8:wallet" "USD/2" = 0 := by
  intro ledger filled
  have posted : (ledger.run walletPayment [("ID", .text "7")]).1.toOption.map
      Transaction.postings = some [⟨"@world", "@users:7:wallet", "USD/2", 1⟩] := by
    decide +kernel
  cases ran : ledger.run walletPayment [("ID", .text "7")] with
  | mk outcome after =>
      rw [ran] at posted
      cases outcome with
      | error fault => cases posted
      | ok tx =>
          have made : tx.postings = [⟨"@world", "@users:7:wallet", "USD/2", 1⟩] :=
            Option.some.inj posted
          obtain ⟨text, spelled, -, -, -, unbraced, keys, others⟩ :=
            run_books_to_references ran
          have known : Placeholder.substitute [("ID", .text "7")] walletPayment = .ok filled :=
            toOption_eq_some.mp (by decide +kernel)
          obtain rfl : filled = text := Except.ok.inj (known.symm.trans spelled)
          have booked : bookedTo tx (Script.ofText filled) = ["@world", "@users:7:wallet"] := by
            rw [bookedTo, made]
            decide +kernel
          refine ⟨tx, after, rfl, unbraced (by decide +kernel), ?_, ?_⟩
          · rw [keys, booked]
            decide +kernel
          · rw [(others "@users:8:wallet" (by rw [booked]; decide +kernel)).1]
            decide +kernel

/-- Without one the run succeeds as well, and books to the placeholder. -/
theorem run_walletPayment_unbound :
    let ledger := create (.text "main") none false
    ∃ tx, (ledger.run walletPayment []).1 = .ok tx ∧
      tx.postings = [⟨"@world", "@users:\x7bID\x7d:wallet", "USD/2", 1⟩] ∧
      (ledger.run walletPayment []).2.balance "@users:\x7bID\x7d:wallet" "USD/2" = 1 := by
  intro ledger
  have answered : (ledger.run walletPayment []).1.toOption.map Transaction.postings =
      some [⟨"@world", "@users:\x7bID\x7d:wallet", "USD/2", 1⟩] := by
    decide +kernel
  obtain ⟨tx, made, posted⟩ := Option.map_eq_some_iff.mp answered
  exact ⟨tx, toOption_eq_some.mp made, posted, by decide +kernel⟩

end Ledger

end DoubleEntry
