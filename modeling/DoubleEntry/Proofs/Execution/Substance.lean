import DoubleEntry.Proofs.Execution.Atomicity
import DoubleEntry.Proofs.Execution.Effect

/-!
# What a transaction moves

Every posting of a script moves something, but a script need not come to a posting. Its
transaction is then committed all the same: it moves nothing and still takes a number. When a
send comes to no posting can be told from the send and the ledger alone.
-/

namespace DoubleEntry

namespace Source

/-! ## Sources that give nothing -/

/-- Whether the cap of a source lets nothing through. -/
def IsShut (source : Source) : Prop :=
  ∃ literal ∈ source.cap, literal.quantity = .exactly 0 ∨ literal.quantity = .everything

theorem capped_eq_zero_iff (source : Source) {needed : Nat} (asked : 0 < needed) :
    capped source.cap needed = 0 ↔ source.IsShut := by
  unfold capped IsShut
  cases source.cap with
  | none =>
      refine iff_of_false asked.ne' ?_
      rintro ⟨literal, ⟨⟩, -⟩
  | some literal =>
      dsimp only
      cases quantity : literal.quantity with
      | everything => exact iff_of_true rfl ⟨literal, rfl, Or.inr quantity⟩
      | exactly amount =>
          dsimp only
          constructor
          · intro none
            obtain rfl : amount = 0 := by omega
            exact ⟨literal, rfl, Or.inl quantity⟩
          · rintro ⟨_, ⟨rfl⟩, shut | open_⟩
            · rw [quantity] at shut
              obtain rfl := Quantity.exactly.inj shut
              exact Nat.min_zero needed
            · rw [quantity] at open_
              cases open_

theorem gives_eq_zero_iff (source : Source) (mayOverdraw : Bool) (available : Int) {needed : Nat}
    (asked : 0 < needed) :
    source.gives mayOverdraw available needed = 0 ↔
      source.IsShut ∨ mayOverdraw = false ∧ available ≤ 0 := by
  rw [← source.capped_eq_zero_iff asked]
  unfold gives
  dsimp only
  cases mayOverdraw with
  | true =>
      rw [if_pos rfl]
      exact ⟨Or.inl, fun either => either.resolve_right nofun⟩
  | false =>
      rw [if_neg Bool.false_ne_true, Nat.min_eq_zero_iff, Int.toNat_eq_zero]
      exact or_congr_right (iff_and_self.mpr fun _ => rfl)

end Source

namespace Destination

/-- Nobody gets a share just where all shares are kept. -/
theorem split_eq_nil_iff {vars : Variables} {total : Int} {destinations : List Destination}
    {allocations : List Allocation} (h : split vars total destinations = .ok allocations) :
    allocations = [] ↔ ∀ destination ∈ destinations, destination.receiver = .kept := by
  have kept : live destinations = [] ↔
      ∀ destination ∈ destinations, destination.receiver = .kept := by
    rw [live, List.filterMap_eq_nil_iff]
    refine forall₂_congr fun destination _ => ?_
    cases destination.receiver with
    | account reference => exact iff_of_false nofun nofun
    | kept => exact iff_of_true rfl rfl
  rw [← kept]
  rw [split] at h
  cases shares : live destinations with
  | nil =>
      rw [shares] at h
      exact iff_of_true (Except.ok.inj h).symm rfl
  | cons share rest =>
      rw [shares] at h
      obtain ⟨account, amount, others, -, -, -, -, rfl⟩ := splitLeft_cons h
      exact iff_of_false (List.cons_ne_nil _ _) (List.cons_ne_nil _ _)

end Destination

namespace Ledger

variable {ledger : Ledger} {text : Text} {vars : Variables}

/-! ## Sends that come to no posting -/

/-- Whether a source gives nothing of an asset: its cap lets nothing through, or its account
holds nothing and may not go below zero. -/
def IsDry (ledger : Ledger) (asset : Text) (source : Source) : Prop :=
  source.IsShut ∨ ∃ account, Script.resolve [] source.account = .ok account ∧
    source.overdraft.isGranted = false ∧ account ≠ Address.world ∧ ledger.balance account asset ≤ 0

/-- Whether a send moves nothing: it asks for nothing, all of it is kept, or no source gives
anything. -/
def Idles (ledger : Ledger) (send : Send) : Prop :=
  send.monetary.quantity = .exactly 0 ∨
    (∀ destination ∈ send.destinations, destination.receiver = .kept) ∨
    ∀ source ∈ send.sources, ledger.IsDry send.monetary.asset source

theorem given_eq_zero_iff {asset account : Text} {source : Source} {needed : Nat}
    (asked : 0 < needed) (found : Script.resolve [] source.account = .ok account) :
    ledger.given [] asset source account needed = 0 ↔ ledger.IsDry asset source := by
  rw [given, source.gives_eq_zero_iff _ _ asked, Overlay.Foresees.start, IsDry, found]
  refine or_congr_right ?_
  rw [Bool.or_eq_false_iff, decide_eq_false_iff_not, and_assoc]
  constructor
  · intro denied
    exact ⟨account, rfl, denied⟩
  · rintro ⟨_, ⟨rfl⟩, denied⟩
    exact denied

/-- Nothing is drawn of what is asked for just where all sources are dry. -/
theorem drawFrom_dry_iff {asset : Text} {sources : List Source} {needed left : Nat}
    {draws : List Draw} (asked : 0 < needed)
    (h : ledger.drawFrom [] [] asset needed sources = .ok (draws, left)) :
    (∀ draw ∈ draws, draw.amount = 0) ↔ ∀ source ∈ sources, ledger.IsDry asset source := by
  induction sources generalizing needed draws with
  | nil =>
      rw [drawFrom] at h
      obtain ⟨rfl, -⟩ := Prod.mk.inj (Except.ok.inj h)
      exact iff_of_true (List.forall_mem_nil _) (List.forall_mem_nil _)
  | cons source rest ih =>
      obtain ⟨needed, rfl⟩ := Nat.exists_eq_succ_of_ne_zero asked.ne'
      obtain ⟨account, others, found, drawn, rfl⟩ := drawFrom_succ.mp h
      have dry : _ ↔ ledger.IsDry asset source := given_eq_zero_iff asked found
      rw [List.forall_mem_cons, ← dry]
      by_cases none : ledger.given [] asset source account (needed + 1) = 0
      · rw [if_pos none, and_iff_right none]
        rw [none] at drawn
        exact ih asked drawn
      · rw [if_neg none]
        exact iff_of_false (fun all => none (all _ List.mem_cons_self)) fun both => none both.1

/-- Draws that are paid out come to no posting just where they are all of nothing. -/
theorem pair_eq_nil_iff {asset : Text} {draws : List Draw} {allocations : List Allocation}
    {postings : List Posting} (paired : pair asset draws allocations = .ok postings)
    (pays : Pays asset draws allocations postings) :
    postings = [] ↔ ∀ draw ∈ draws, draw.amount = 0 := by
  constructor
  · rintro rfl draw mem
    have taken := pays.debited draw.account
    have part : draw.amount ≤ Draw.taken draw.account draws :=
      List.le_sum_of_mem (List.mem_map_of_mem (List.mem_filter.mpr ⟨mem, by simp⟩))
    rw [Posting.debited, Posting.moved_nil] at taken
    omega
  · intro nothing
    refine List.eq_nil_iff_forall_not_mem.mpr fun posting mem => ?_
    obtain ⟨draw, given, -, -, -, -, -, some_, within⟩ := mem_pair paired mem
    rw [nothing draw given] at within
    omega

theorem sendPostings_eq_nil_iff {send : Send} (formed : send.IsWellFormed)
    {postings : List Posting} (h : ledger.sendPostings [] [] send = .ok postings) :
    postings = [] ↔ ledger.Idles send := by
  obtain ⟨total, draws, allocations, asked, drawn, split, paired⟩ := sendPostings_eq_ok.mp h
  obtain ⟨left, waterfall, -⟩ := draw_eq_ok.mp drawn
  have kept := Destination.split_eq_nil_iff split
  rw [Idles, asked, ← kept]
  rcases total.eq_zero_or_pos with rfl | some_
  · refine iff_of_true (List.eq_nil_iff_forall_not_mem.mpr fun posting mem => ?_) (Or.inl rfl)
    obtain ⟨draw, given, -, -, -, -, -, moved, within⟩ := mem_pair paired mem
    have part := Draw.amount_le_total given
    have whole := drawFrom_total waterfall
    omega
  · have asks : Quantity.exactly total ≠ .exactly 0 := fun none =>
      some_.ne' (Quantity.exactly.inj none)
    rw [or_iff_right asks, ← drawFrom_dry_iff some_ waterfall]
    rcases pays_of_pair formed drawn split paired with ⟨nobody, none⟩ | ⟨somebody, pays⟩
    · exact iff_of_true none (Or.inl nobody)
    · rw [or_iff_right somebody]
      exact pair_eq_nil_iff paired pays

/-- A plan comes to no posting just where every send idles on the ledger. -/
theorem executeSends_eq_nil_iff {sends : List Send} (formed : ∀ send ∈ sends, send.IsWellFormed)
    {last : Overlay} {postings : List Posting}
    (planned : ledger.executeSends [] [] sends = .ok (postings, last)) :
    postings = [] ↔ ∀ send ∈ sends, ledger.Idles send := by
  induction sends generalizing postings with
  | nil =>
      obtain ⟨rfl, -⟩ := executeSends_nil.mp planned
      exact iff_of_true rfl nofun
  | cons send rest ih =>
      obtain ⟨first, others⟩ := List.forall_mem_cons.mp formed
      obtain ⟨here, behind, worked, later, rfl⟩ := executeSends_cons.mp planned
      have idle := sendPostings_eq_nil_iff first worked
      rw [List.append_eq_nil_iff, List.forall_mem_cons, ← idle]
      refine and_congr_right fun none => ?_
      -- A send that idles leaves the overlay as it was.
      rw [none] at later
      exact ih others later

/-! ## The transaction of a run -/

section Committed

variable {script : Script} {tx : Transaction} {after : Ledger}
  (commits : ledger.Commits text vars script tx after)
include commits

/-- What a run commits is what its sends were worked out to. -/
theorem Commits.plan : ∃ filled, Placeholder.substitute vars text = .ok filled ∧
    script = Script.ofText filled ∧ ∃ postings last,
      ledger.executeSends [] [] script.sends = .ok (postings, last) ∧
        tx.postings = postings.map Posting.normalize := by
  obtain ⟨proposal, drafted, made⟩ := commits
  obtain ⟨filled, spelled, later⟩ := bind_eq_ok.mp drafted
  obtain ⟨proposed, planned, done⟩ := bind_eq_ok.mp later
  obtain ⟨rfl, rfl⟩ := Prod.mk.inj (Except.ok.inj done)
  obtain ⟨postings, last, overdrafts, worked, -, rfl⟩ := propose_eq_ok.mp planned
  refine ⟨filled, spelled, rfl, postings, last, worked, ?_⟩
  rw [(commit_ok made).1]
  rfl

/-- Behind its commit a run only writes to accounts, and no balances. -/
theorem Commits.behind : (ledger.run text vars).2.nextId = after.nextId ∧
    after.SameBooks (ledger.run text vars).2 := by
  obtain ⟨proposal, drafted, made⟩ := commits
  obtain ⟨notes, left⟩ := conclude_annotates ledger script proposal
  rw [run_eq, drafted]
  dsimp only
  rw [left, commitAloud_ok ledger made]
  exact ⟨by rw [annotateAll_frame], sameBooks_annotateAll after notes⟩

end Committed

/-- A script without sends is committed, whatever else it says. -/
theorem commits_of_no_sends {filled : Text}
    (spelled : Placeholder.substitute vars text = .ok filled)
    (none : (Script.ofText filled).sends = []) :
    ∃ tx after, ledger.Commits text vars (Script.ofText filled) tx after := by
  obtain ⟨proposal, proposed, empty⟩ : ∃ proposal,
      ledger.propose (Script.ofText filled) = .ok proposal ∧ proposal.postings = [] := by
    rw [propose, none]
    exact ⟨_, rfl, rfl⟩
  have afforded : Affords proposal.overdrafts ledger (proposal.postings.map Posting.normalize) := by
    rw [empty]
    trivial
  obtain ⟨tx, after, made⟩ := exists_commit_iff.mpr afforded
  exact ⟨tx, after, proposal,
    bind_eq_ok.mpr ⟨filled, spelled, bind_eq_ok.mpr ⟨proposal, proposed, rfl⟩⟩, made⟩

/-- A run changes nothing, or it commits one transaction under the next number. Each posting of
this moves something. There is none just when every send of the script idles on the ledger, and
then no balance changes; in particular a script without sends is committed like any other. -/
theorem run_moves_something_or_idles (ledger : Ledger) (text : Text) (vars : Variables) :
    let after := (ledger.run text vars).2
    (after = ledger ∨ ∃ (filled : Text) (tx : Transaction),
      Placeholder.substitute vars text = .ok filled ∧
      after.log = ledger.log ++ [tx] ∧ tx.id = ledger.nextId ∧
      after.nextId = ledger.nextId + 1 ∧
      (∀ posting ∈ tx.postings, 0 < posting.amount) ∧
      (tx.postings = [] ↔ ∀ send ∈ (Script.ofText filled).sends, ledger.Idles send) ∧
      (tx.postings = [] → ∀ address asset,
        after.balance address asset = ledger.balance address asset)) ∧
    ∀ filled, Placeholder.substitute vars text = .ok filled →
      (Script.ofText filled).sends = [] →
        ∃ tx, after.log = ledger.log ++ [tx] ∧ tx.postings = [] := by
  intro after
  constructor
  · by_cases committed : ∃ script tx reached, ledger.Commits text vars script tx reached
    · obtain ⟨script, tx, reached, commits⟩ := committed
      obtain ⟨filled, spelled, rfl, postings, last, planned, listed⟩ := commits.plan
      obtain ⟨next, same⟩ := commits.behind
      have added := log_run commits
      obtain ⟨proposal, -, made⟩ := commits
      have idle := executeSends_eq_nil_iff (fun _ => Script.isWellFormed_of_mem_sends) planned
      refine Or.inr ⟨filled, tx, spelled, added, ?_, ?_, ?_, ?_, ?_⟩
      · rw [(commit_ok made).1]
        rfl
      · rw [next, commit_frame made]
      · rw [listed, List.forall_mem_map]
        intro posting mem
        obtain ⟨send, -, layer, here, worked, found⟩ := mem_executeSends planned mem
        obtain ⟨total, draws, allocations, -, -, -, paired⟩ := sendPostings_eq_ok.mp worked
        obtain ⟨draw, -, allocation, -, -, -, -, some_, -⟩ := mem_pair paired found
        exact some_
      · rw [listed, List.map_eq_nil_iff]
        exact idle
      · intro none address asset
        rw [same.balance, (commit_ok made).2, none]
        rfl
    · exact Or.inl (run_unchanged committed)
  · intro filled spelled none
    have committing : ∃ tx after, ledger.Commits text vars (Script.ofText filled) tx after :=
      commits_of_no_sends spelled none
    obtain ⟨tx, reached, commits⟩ := committing
    refine ⟨tx, log_run commits, ?_⟩
    obtain ⟨other, same, read, postings, last, planned, listed⟩ := commits.plan
    rw [none] at planned
    obtain ⟨rfl, -⟩ := executeSends_nil.mp planned
    exact listed

/-- A script that only notes something on an account. -/
def noteAlone : Text := "set_account_meta(@a, \"k\", \"v\")"

/-- It commits a transaction without postings, which takes a number, and writes its note. -/
theorem run_noteAlone :
    let ledger := create (.text "main") none false
    ∃ tx, (ledger.run noteAlone []).1 = .ok tx ∧ tx.postings = [] ∧
      (ledger.run noteAlone []).2.nextId = ledger.nextId + 1 ∧
      (ledger.run noteAlone []).2.noted? "@a" (.text "k") = some (.text "v") := by
  intro ledger
  have answered : (ledger.run noteAlone []).1.toOption.map Transaction.postings = some [] := by
    decide +kernel
  obtain ⟨tx, made, empty⟩ := Option.map_eq_some_iff.mp answered
  exact ⟨tx, toOption_eq_some.mp made, empty, by decide +kernel, by decide +kernel⟩

end Ledger

end DoubleEntry
