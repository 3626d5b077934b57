import DoubleEntry.Ledger.Query
import DoubleEntry.Proofs.Ledger.Store
import Mathlib.Data.Set.Basic

/-!
# The order of time

A ledger with a clock of its own logs its transactions in the order of their times, no
account is first used later than a transaction that touches it, and the transactions
between two moments stand together in the log.

All this is about times that can be compared with one another: times without a zone, times
with fixed zones, or times of one region. A clock without a zone cannot be compared with a
bound that has one, which is refused; and a clock of a region that is put back shows again
what it has shown, so that a bound from outside the region may tell its times in another
order.
-/

namespace DoubleEntry

/-! ## Times that can be compared -/

namespace Moment

/-- Whether any two of some times can be compared, and stand in one order. -/
structure Comparable (times : Set Moment) : Prop where
  answered : ∀ a ∈ times, ∀ b ∈ times, ∃ before, a.isBefore? b = some before
  trans : ∀ a ∈ times, ∀ b ∈ times, ∀ c ∈ times,
    b.isBefore? a = some false → c.isBefore? b = some false → c.isBefore? a = some false

/-- Times that are compared by a number of each stand in one order. -/
theorem comparable_of_measure {times : Set Moment} (measure : Moment → Int)
    (measured : ∀ a ∈ times, ∀ b ∈ times,
      a.isBefore? b = some (decide (measure a < measure b))) : Comparable times where
  answered := fun a one b other => ⟨_, measured a one b other⟩
  trans := by
    intro a first b second c third early late
    rw [measured b second a first, Option.some.injEq, decide_eq_false_iff_not] at early
    rw [measured c third b second, Option.some.injEq, decide_eq_false_iff_not] at late
    rw [measured c third a first, Option.some.injEq, decide_eq_false_iff_not]
    omega

/-- Times without a zone are compared by what their clocks show. -/
theorem comparable_zoneless : Comparable { moment | moment.zone = none } := by
  refine comparable_of_measure (fun moment => moment.rank) fun a one b other => ?_
  have here : a.zone = none := one
  have there : b.zone = none := other
  simp [isBefore?, here, there]

/-- Times of one region are compared by what its clocks show. -/
theorem comparable_region (region : Text) :
    Comparable { moment | ∃ offset, moment.zone = some ⟨offset, some region⟩ } := by
  refine comparable_of_measure (fun moment => moment.rank) ?_
  rintro a ⟨ahead, here⟩ b ⟨behind, there⟩
  simp [isBefore?, here, there, Zone.sharesRegion]

/-- The instant that a moment means, read as universal time if it has no zone. -/
def universalInstant (moment : Moment) : Int :=
  moment.instant (moment.zone.getD Zone.universal)

/-- Times with fixed zones are compared by the instants that they mean. -/
theorem comparable_fixed :
    Comparable { moment | ∃ offset, moment.zone = some (Zone.fixed offset) } := by
  refine comparable_of_measure universalInstant ?_
  rintro a ⟨ahead, here⟩ b ⟨behind, there⟩
  simp [isBefore?, universalInstant, here, there, Zone.sharesRegion, Zone.fixed]

/-- No moment is before itself. -/
theorem isBefore?_self (moment : Moment) : moment.isBefore? moment = some false := by
  unfold isBefore?
  cases moment.zone with
  | none => simp
  | some zone => simp

end Moment

namespace Stamp

/-- Whether one time is no later than another, where both are times of a ledger's own
clock. Times of the wall clock are not recorded and so in no order. -/
def NotAfter : Stamp → Stamp → Prop
  | .logical moment, .logical other => other.isBefore? moment = some false
  | _, _ => False

instance (stamp other : Stamp) : Decidable (stamp.NotAfter other) := by
  unfold NotAfter
  split <;> infer_instance

/-- Whether a time was shown by a clock that shows only some times. -/
def IsAmong (times : Set Moment) : Stamp → Prop
  | .logical moment => moment ∈ times
  | .wallClock => False

/-- Whether one time is no later than another, where a clock shows only some times. -/
structure Precedes (times : Set Moment) (stamp other : Stamp) : Prop where
  earlier : stamp.IsAmong times
  later : other.IsAmong times
  notAfter : stamp.NotAfter other

theorem NotAfter.refl (moment : Moment) : (logical moment).NotAfter (.logical moment) :=
  moment.isBefore?_self

variable {times : Set Moment}

theorem Precedes.refl {stamp : Stamp} (among : stamp.IsAmong times) :
    Precedes times stamp stamp := by
  refine ⟨among, among, ?_⟩
  cases stamp with
  | logical moment => exact NotAfter.refl moment
  | wallClock => exact among

theorem Precedes.trans {first second third : Stamp} (comparable : Moment.Comparable times)
    (early : Precedes times first second) (late : Precedes times second third) :
    Precedes times first third := by
  refine ⟨early.earlier, late.later, ?_⟩
  match first, second, third with
  | .logical a, .logical b, .logical c =>
      exact comparable.trans a early.earlier b early.later c late.later early.notAfter
        late.notAfter

end Stamp

namespace Transaction

variable {first last : Option Moment} {times : Set Moment} {tx other : Transaction}

/-- Whether a transaction was not made before a moment, if one is given. -/
def IsSince (first : Option Moment) (tx : Transaction) : Prop :=
  ∀ moment ∈ first, (Stamp.logical moment).NotAfter tx.timestamp

/-- Whether a transaction was not made after a moment, if one is given. -/
def IsUntil (last : Option Moment) (tx : Transaction) : Prop :=
  ∀ moment ∈ last, tx.timestamp.NotAfter (.logical moment)

instance (first : Option Moment) (tx : Transaction) : Decidable (tx.IsSince first) :=
  inferInstanceAs (Decidable (∀ _ ∈ _, _))

instance (last : Option Moment) (tx : Transaction) : Decidable (tx.IsUntil last) :=
  inferInstanceAs (Decidable (∀ _ ∈ _, _))

theorem IsSince.onward (comparable : Moment.Comparable times)
    (bound : ∀ moment ∈ first, moment ∈ times) (since : tx.IsSince first)
    (onward : Stamp.Precedes times tx.timestamp other.timestamp) : other.IsSince first := by
  intro moment given
  have begun : Stamp.Precedes times (.logical moment) tx.timestamp :=
    ⟨bound moment given, onward.earlier, since moment given⟩
  exact (begun.trans comparable onward).notAfter

theorem IsUntil.backward (comparable : Moment.Comparable times)
    (bound : ∀ moment ∈ last, moment ∈ times) (until_ : other.IsUntil last)
    (onward : Stamp.Precedes times tx.timestamp other.timestamp) : tx.IsUntil last := by
  intro moment given
  have ended : Stamp.Precedes times other.timestamp (.logical moment) :=
    ⟨onward.later, bound moment given, until_ moment given⟩
  exact (onward.trans comparable ended).notAfter

end Transaction

/-! ## Blocks of an ordered list -/

section Blocks

variable {α : Type} {r : α → α → Prop} {keep : α → Bool} {items : List α}

/-- What goes on once it has begun holds at the end of an ordered list. -/
theorem filter_suffix (ordered : items.Pairwise r)
    (goesOn : ∀ {a b}, r a b → keep a = true → keep b = true) : items.filter keep <:+ items := by
  induction items with
  | nil => exact List.suffix_rfl
  | cons item rest ih =>
      obtain ⟨later, ordered⟩ := List.pairwise_cons.mp ordered
      by_cases here : keep item = true
      · have all : (item :: rest).filter keep = item :: rest := by
          refine List.filter_eq_self.mpr (List.forall_mem_cons.mpr ⟨here, fun other mem => ?_⟩)
          exact goesOn (later other mem) here
        exact ⟨[], all⟩
      · rw [List.filter_cons_of_neg here]
        exact (ih ordered).trans (List.suffix_cons item rest)

/-- What held before where it holds later holds at the beginning of an ordered list. -/
theorem filter_prefix (ordered : items.Pairwise r)
    (goesBack : ∀ {a b}, r a b → keep b = true → keep a = true) :
    items.filter keep <+: items := by
  induction items with
  | nil => exact List.prefix_rfl
  | cons item rest ih =>
      obtain ⟨later, ordered⟩ := List.pairwise_cons.mp ordered
      by_cases here : keep item = true
      · rw [List.filter_cons_of_pos here]
        exact List.cons_prefix_cons.mpr ⟨rfl, ih ordered⟩
      · have none : (item :: rest).filter keep = [] := by
          refine List.filter_eq_nil_iff.mpr (List.forall_mem_cons.mpr ⟨here, fun other mem => ?_⟩)
          exact fun there => here (goesBack (later other mem) there)
        rw [none]
        exact List.nil_prefix

/-- What has begun and has not ended holds in a block of an ordered list. -/
theorem filter_infix {begun open_ : α → Bool} (ordered : items.Pairwise r)
    (goesOn : ∀ {a b}, r a b → begun a = true → begun b = true)
    (goesBack : ∀ {a b}, r a b → open_ b = true → open_ a = true) :
    items.filter (fun item => open_ item && begun item) <:+: items := by
  have late : items.filter begun <:+ items := filter_suffix ordered goesOn
  have early : (items.filter begun).filter open_ <+: items.filter begun :=
    filter_prefix (ordered.sublist List.filter_sublist) goesBack
  rw [← List.filter_filter]
  exact early.isInfix.trans late.isInfix

end Blocks

namespace Ledger

/-! ## First use -/

/-- When an account was first used. -/
def firstUsage? (ledger : Ledger) (address : Text) : Option Stamp :=
  (ledger.accounts.get? address).map Account.firstUsage

/-- Whether a ledger has the clock and the log of another and its accounts, besides accounts
that are first used now. -/
structure Mentions (before after : Ledger) : Prop where
  clock : after.clock = before.clock
  log : after.log = before.log
  first : ∀ address, after.firstUsage? address = before.firstUsage? address ∨
    before.firstUsage? address = none ∧ after.firstUsage? address = some before.now

variable {ledger : Ledger}

theorem Mentions.now {after : Ledger} (mentions : ledger.Mentions after) :
    after.now = ledger.now := by
  rw [Ledger.now, mentions.clock, Ledger.now]

theorem Mentions.refl (ledger : Ledger) : ledger.Mentions ledger :=
  ⟨rfl, rfl, fun _ => Or.inl rfl⟩

theorem Mentions.trans {mid after : Ledger} (early : ledger.Mentions mid)
    (late : mid.Mentions after) : ledger.Mentions after where
  clock := late.clock.trans early.clock
  log := late.log.trans early.log
  first := by
    intro address
    rcases late.first address with same | ⟨absent, fresh⟩
    · rw [same]
      exact early.first address
    · rcases early.first address with before | ⟨-, opened⟩
      · rw [fresh, early.now, ← before]
        exact Or.inr ⟨absent, rfl⟩
      · rw [opened] at absent
        cases absent

theorem mentions_openAccount (ledger : Ledger) (address : Text) :
    ledger.Mentions (ledger.openAccount address) where
  clock := by rw [openAccount_frame]
  log := by rw [openAccount_frame]
  first := by
    intro other
    unfold firstUsage?
    rw [get?_openAccount]
    split
    · next fresh =>
        rw [fresh.2]
        exact Or.inr ⟨rfl, rfl⟩
    · exact Or.inl rfl

theorem mentions_updateAccount (ledger : Ledger) (address : Text) {change : Account → Account}
    (keeps : ∀ account, (change account).firstUsage = account.firstUsage) :
    ledger.Mentions (ledger.updateAccount address change) where
  clock := by rw [updateAccount_frame]
  log := by rw [updateAccount_frame]
  first := by
    intro other
    unfold firstUsage?
    rw [get?_updateAccount]
    split
    · rw [Option.map_map]
      exact Or.inl (congrArg (fun f => Option.map f _) (funext keeps))
    · exact Or.inl rfl

theorem mentions_annotate (ledger : Ledger) (address : Text) (key value : Data) :
    ledger.Mentions (ledger.annotate address key value) :=
  (mentions_openAccount ledger _).trans (mentions_updateAccount _ _ fun _ => rfl)

theorem mentions_transferAll (ledger : Ledger) (postings : List Posting) :
    ledger.Mentions (ledger.transferAll postings) := by
  apply transferAll_keeps _ _ (Mentions.refl ledger)
  · intro mid address early
    exact early.trans (mentions_openAccount mid address)
  · intro mid address asset amount early
    exact early.trans (mentions_updateAccount mid address fun _ => rfl)

/-- Both sides of a posting are accounts once it was made. -/
theorem firstUsage?_transferAll (ledger : Ledger) {postings : List Posting}
    (full : ∀ posting ∈ postings, posting.isFull) {posting : Posting} (mem : posting ∈ postings)
    {address : Text} (side : address ∈ [posting.source, posting.destination]) :
    ∃ stamp, (ledger.transferAll postings).firstUsage? address = some stamp := by
  have spelled : Address.normalize address = address ∧
      (posting.source = address ∨ posting.destination = address) := by
    rcases List.mem_pair.mp side with rfl | rfl
    · exact ⟨(full posting mem).source, Or.inl rfl⟩
    · exact ⟨(full posting mem).destination, Or.inr rfl⟩
  have listed : (ledger.transferAll postings).hasEntry address posting.asset := by
    rw [hasEntry_transferAll ledger full, spelled.1]
    exact Or.inr ⟨posting, mem, rfl, spelled.2⟩
  obtain ⟨account, found, -⟩ := (hasEntry_iff _ _ _).mp listed
  rw [spelled.1] at found
  exact ⟨account.firstUsage, by rw [firstUsage?, found, Option.map_some]⟩

/-! ## The invariant -/

variable {times : Set Moment}

/-- The clock of a ledger is its own and shows one of the given times; no account was first
used and no transaction logged after the present time, the log is in the order of time, and
both sides of a posting were used when it was made. -/
structure InOrder (times : Set Moment) (ledger : Ledger) : Prop where
  clocked : ledger.now.IsAmong times
  opened : ∀ address stamp, ledger.firstUsage? address = some stamp →
    stamp.Precedes times ledger.now
  past : ∀ tx ∈ ledger.log, tx.timestamp.Precedes times ledger.now
  logged : ledger.log.Pairwise fun earlier later =>
    earlier.timestamp.Precedes times later.timestamp
  used : ∀ tx ∈ ledger.log, ∀ posting ∈ tx.postings,
    ∀ address ∈ [posting.source, posting.destination],
      ∃ stamp, ledger.firstUsage? address = some stamp ∧ stamp.Precedes times tx.timestamp

/-- Accounts that are mentioned now are first used at no earlier time than any other. -/
theorem InOrder.mentions {after : Ledger} (ordered : ledger.InOrder times)
    (mentions : ledger.Mentions after) : after.InOrder times where
  clocked := by
    rw [mentions.now]
    exact ordered.clocked
  opened := by
    intro address stamp first
    rw [mentions.now]
    rcases mentions.first address with same | ⟨-, fresh⟩
    · exact ordered.opened address stamp (same.symm.trans first)
    · obtain rfl : ledger.now = stamp := Option.some.inj (fresh.symm.trans first)
      exact Stamp.Precedes.refl ordered.clocked
  past := by
    rw [mentions.log, mentions.now]
    exact ordered.past
  logged := by
    rw [mentions.log]
    exact ordered.logged
  used := by
    rw [mentions.log]
    intro tx logged posting mem address side
    obtain ⟨stamp, first, early⟩ := ordered.used tx logged posting mem address side
    rcases mentions.first address with same | ⟨absent, -⟩
    · exact ⟨stamp, same.trans first, early⟩
    · rw [first] at absent
      cases absent

/-- A commit logs the present time, when all accounts were used already. -/
theorem InOrder.commit {after : Ledger} {proposal : Proposal} {tx : Transaction}
    (ordered : ledger.InOrder times) (h : ledger.commit proposal = .ok (tx, after)) :
    after.InOrder times := by
  have mentions := mentions_transferAll ledger tx.postings
  have made : (ledger.transferAll tx.postings).InOrder times := ordered.mentions mentions
  have present : tx.timestamp = (ledger.transferAll tx.postings).now := by
    rw [mentions.now, (commit_ok h).1]
    rfl
  obtain rfl := (commit_ok h).2
  constructor
  · exact made.clocked
  · exact made.opened
  · intro other logged
    rcases List.mem_append.mp logged with old | new
    · exact made.past other old
    · rw [List.mem_singleton.mp new, present]
      exact Stamp.Precedes.refl made.clocked
  · refine List.pairwise_append.mpr ⟨made.logged, List.pairwise_singleton _ _, ?_⟩
    intro earlier old later new
    rw [List.mem_singleton.mp new, present]
    exact made.past earlier old
  · intro other logged posting mem address side
    rcases List.mem_append.mp logged with old | new
    · exact made.used other old posting mem address side
    · obtain rfl := List.mem_singleton.mp new
      obtain ⟨stamp, first⟩ := firstUsage?_transferAll ledger (commit_isFull h) mem side
      refine ⟨stamp, first, ?_⟩
      rw [present]
      exact made.opened address stamp first

/-- The clock goes on from the present time to one that can be compared with it, so that all
that was stays past. -/
theorem InOrder.advance {after : Ledger} {moment : Moment} (comparable : Moment.Comparable times)
    (among : moment ∈ times) (ordered : ledger.InOrder times)
    (h : ledger.advance moment = .ok after) : after.InOrder times := by
  have onward : ledger.now.Precedes times (.logical moment) := by
    refine ⟨ordered.clocked, among, ?_⟩
    have clocked := ordered.clocked
    rw [Ledger.advance] at h
    rw [now] at clocked ⊢
    split at h
    · split at h
      · cases h
      · next later => exact later
      · cases h
    · next clock =>
        rw [clock] at clocked
        exact clocked.elim
  obtain rfl := advance_ok h
  exact {
    clocked := among
    opened := fun address stamp first => (ordered.opened address stamp first).trans comparable onward
    past := fun tx logged => (ordered.past tx logged).trans comparable onward
    logged := ordered.logged
    used := ordered.used }

/-- The clock is never moved to a time that cannot be compared with what it shows. -/
theorem InOrder.advance_incomparable {after : Ledger} {moment : Moment}
    (ordered : ledger.InOrder times) (foreign : ∀ time ∈ times, moment.isBefore? time = none) :
    ledger.advance moment ≠ .ok after := by
  intro h
  have clocked := ordered.clocked
  rw [Ledger.advance] at h
  rw [now] at clocked
  split at h
  · next current clock =>
      rw [clock] at clocked
      rw [foreign current clocked] at h
      cases h
  · next clock =>
      rw [clock] at clocked
      exact clocked

theorem InOrder.move {after : Ledger} (move : Move ledger after)
    (steady : after.clock = ledger.clock) (ordered : ledger.InOrder times) :
    after.InOrder times := by
  cases move with
  | commit h => exact ordered.commit h
  | openAccount address => exact ordered.mentions (mentions_openAccount ledger address)
  | annotate address key value =>
      exact ordered.mentions (mentions_annotate ledger address key value)
  | advance h =>
      have same : after = ledger := by
        obtain rfl := advance_ok h
        dsimp only at steady
        rw [steady]
      rw [same]
      exact ordered

/-- An empty ledger is in order, if its clock shows one of the times. -/
theorem inOrder_cleared (clocked : ledger.now.IsAmong times) : ledger.cleared.InOrder times := by
  have empty : ({ ledger with accounts := [], log := [], nextId := 1 } : Ledger).InOrder times := {
    clocked
    opened := nofun
    past := nofun
    logged := List.Pairwise.nil
    used := nofun }
  exact empty.mentions (mentions_openAccount _ _)

/-- A ledger is in order after any requests, if its clock is moved to comparable times or
asked to move to times that it cannot compare. -/
theorem inOrder_serveAll (comparable : Moment.Comparable times) (name : Data) {start : Moment}
    (verbose : Bool) {requests : List Request} (begins : start ∈ times)
    (moves : ∀ moment, .advance moment ∈ requests →
      moment ∈ times ∨ ∀ time ∈ times, moment.isBefore? time = none) :
    ((create name (some start) verbose).serveAll requests).InOrder times := by
  apply serveAll_preserves_timed
  · exact fun ordered => inOrder_cleared ordered.clocked
  · intro ledger after moment asked moved ordered
    rcases moves moment asked with among | foreign
    · exact ordered.advance comparable among moved
    · exact absurd moved (ordered.advance_incomparable foreign)
  · exact InOrder.move
  · exact inOrder_cleared begins

/-! ## Transactions between two moments -/

/-- A time that can be compared with a bound is on the right side of it, or on the wrong
one. -/
theorem withinBound_logical {moment : Moment} {bound : Option Moment}
    {outside? : Moment → Moment → Option Bool}
    (answered : ∀ limit ∈ bound, ∃ outside, outside? moment limit = some outside) :
    withinBound (.logical moment) bound outside? =
      .ok (decide (∀ limit ∈ bound, outside? moment limit = some false)) := by
  cases bound with
  | none => simp [withinBound]
  | some limit =>
      obtain ⟨outside, told⟩ := answered limit rfl
      simp [withinBound, told]

/-- Asked for moments only, a transaction with a time that can be compared with both is
compared with both. -/
theorem satisfies_moments {tx : Transaction} {first last : Option Moment}
    (comparable : Moment.Comparable times) (among : tx.timestamp.IsAmong times)
    (since : ∀ moment ∈ first, moment ∈ times) (until_ : ∀ moment ∈ last, moment ∈ times) :
    satisfies { account := none, metadata := [], start := first, stop := last } tx =
      .ok (decide (tx.IsUntil last) && decide (tx.IsSince first)) := by
  cases stamped : tx.timestamp with
  | wallClock =>
      rw [stamped] at among
      exact among.elim
  | logical moment =>
      rw [stamped] at among
      have begun : withinBound tx.timestamp first Moment.isBefore? =
          .ok (decide (tx.IsSince first)) := by
        simp only [stamped, Transaction.IsSince]
        exact withinBound_logical fun limit given =>
          comparable.answered moment among limit (since limit given)
      have ended : withinBound tx.timestamp last (fun moment bound => bound.isBefore? moment) =
          .ok (decide (tx.IsUntil last)) := by
        simp only [stamped, Transaction.IsUntil]
        exact withinBound_logical fun limit given =>
          comparable.answered limit (until_ limit given) moment among
      unfold satisfies
      simp only [Option.all_none, Metadata.answers, List.all_nil, Bool.and_self, if_true]
      rw [begun, ended]
      cases decide (tx.IsSince first) <;> cases decide (tx.IsUntil last) <;> rfl

/-- In a ledger in order the transactions between two moments are a block of the log. -/
theorem InOrder.transactionsBy_moments (comparable : Moment.Comparable times)
    (ordered : ledger.InOrder times) {first last : Option Moment}
    (since : ∀ moment ∈ first, moment ∈ times) (until_ : ∀ moment ∈ last, moment ∈ times) :
    ∃ block, ledger.transactionsBy
        { account := none, metadata := [], start := first, stop := last } = .ok block ∧
      block <:+: ledger.log ∧
      ∀ tx, tx ∈ block ↔ tx ∈ ledger.log ∧ tx.IsSince first ∧ tx.IsUntil last := by
  refine ⟨ledger.log.filter fun tx => decide (tx.IsUntil last) && decide (tx.IsSince first),
    ?_, ?_, ?_⟩
  · apply filterM_eq_filter
    intro tx logged
    exact satisfies_moments comparable (ordered.past tx logged).earlier since until_
  · apply filter_infix ordered.logged
    · intro earlier later onward begun
      exact decide_eq_true ((of_decide_eq_true begun).onward comparable since onward)
    · intro earlier later onward open_
      exact decide_eq_true ((of_decide_eq_true open_).backward comparable until_ onward)
  · intro tx
    rw [List.mem_filter, Bool.and_eq_true, decide_eq_true_eq, decide_eq_true_eq,
      and_comm (a := tx.IsUntil last)]

theorem IsNumbered.pairwise_ids (numbered : ledger.IsNumbered) :
    ledger.log.Pairwise fun earlier later => earlier.id < later.id := by
  refine List.pairwise_iff_getElem.mpr fun place other inside there before => ?_
  have early := numbered.place place _ (List.getElem?_eq_getElem inside)
  have late := numbered.place other _ (List.getElem?_eq_getElem there)
  omega

/-! ## Every ledger with a clock of its own -/

/-- Let a ledger begin with a clock of its own at a time out of some that can be compared with
one another and be asked to move its clock to such times only, or to times that can be compared
with none of them, which it refuses. Then the log is in the order of time and ends at the
present at the latest, every account was first used by the time of any transaction that touches
it, and asking for the transactions between two of the times, either of which may be left open,
gives a block of the log in the order of numbers, which holds just the transactions that were
made then. The times may be all that have no zone, all with a fixed zone, or all of one
region. -/
theorem time_ordered {times : Set Moment} (comparable : Moment.Comparable times) (name : Data)
    (start : Moment) (verbose : Bool) (requests : List Request) (begins : start ∈ times)
    (moves : ∀ moment, .advance moment ∈ requests →
      moment ∈ times ∨ ∀ time ∈ times, moment.isBefore? time = none) :
    let ledger := (create name (some start) verbose).serveAll requests
    ledger.log.Pairwise (fun earlier later => earlier.timestamp.NotAfter later.timestamp) ∧
      (∀ tx ∈ ledger.log, tx.timestamp.NotAfter ledger.now) ∧
      (∀ address account, (address, account) ∈ ledger.accounts → ∀ tx ∈ ledger.log,
        (∃ posting ∈ tx.postings, posting.source = address ∨ posting.destination = address) →
          account.firstUsage.NotAfter tx.timestamp) ∧
      ∀ first last : Option Moment, (∀ moment ∈ first, moment ∈ times) →
        (∀ moment ∈ last, moment ∈ times) → ∃ block,
          ledger.transactionsBy
              { account := none, metadata := [], start := first, stop := last } = .ok block ∧
            block <:+: ledger.log ∧ block.Pairwise (fun earlier later => earlier.id < later.id) ∧
            ∀ tx, tx ∈ block ↔ tx ∈ ledger.log ∧
              (∀ moment ∈ first, (Stamp.logical moment).NotAfter tx.timestamp) ∧
              ∀ moment ∈ last, tx.timestamp.NotAfter (.logical moment) := by
  intro ledger
  have ordered : ledger.InOrder times := inOrder_serveAll comparable name verbose begins moves
  have numbered : ledger.IsNumbered := isNumbered_serveAll name (some start) verbose requests
  have kept : ledger.IsKept := isKept_serveAll name (some start) verbose requests
  refine ⟨ordered.logged.imp Stamp.Precedes.notAfter, fun tx logged =>
    (ordered.past tx logged).notAfter, ?_, ?_⟩
  · rintro address account listed tx logged ⟨posting, mem, side⟩
    obtain ⟨stamp, first, early⟩ :=
      ordered.used tx logged posting mem address (List.mem_pair.mpr (side.imp Eq.symm Eq.symm))
    rw [firstUsage?, Entries.get?_of_mem kept.distinct listed, Option.map_some] at first
    obtain rfl := Option.some.inj first
    exact early.notAfter
  · intro first last since until_
    obtain ⟨block, found, part, held⟩ := ordered.transactionsBy_moments comparable since until_
    exact ⟨block, found, part, numbered.pairwise_ids.sublist part.sublist, held⟩

/-- The first of two days. -/
def firstDay : Moment :=
  { year := 2025, month := 1, day := 1, hour := 9, minute := 0, second := 0, microsecond := 0 }

/-- The second of two days. -/
def secondDay : Moment := { firstDay with day := 2 }

/-- A payment on each of two days. In between the clock is asked to go back, and to show
universal time, which it both refuses. -/
def onTwoDays : List Request :=
  [.commit unsigned, .advance secondDay, .advance firstDay,
    .advance { secondDay with zone := some .universal }, .commit unsigned]

/-- Of the payments on two days just the second one is found from the second day on, and
its accounts were used by then. -/
theorem time_ordered_onTwoDays :
    let ledger := (create (.text "main") (some firstDay) false).serveAll onTwoDays
    ∃ early late block account,
      ledger.log = [early, late] ∧ early.timestamp.NotAfter late.timestamp ∧
      late.timestamp.NotAfter ledger.now ∧
      ledger.transactionsBy
        { account := none, metadata := [], start := some secondDay, stop := none } = .ok block ∧
      late ∈ block ∧ early ∉ block ∧
      (("@a" : Text), account) ∈ ledger.accounts ∧
      account.firstUsage.NotAfter late.timestamp := by
  intro ledger
  have zoneless : ∀ moment : Moment, .advance moment ∈ onTwoDays →
      moment ∈ { moment : Moment | moment.zone = none } ∨
        ∀ time ∈ { moment : Moment | moment.zone = none }, moment.isBefore? time = none := by
    intro moment asked
    cases zone : moment.zone with
    | none => exact Or.inl zone
    | some _ =>
        refine Or.inr fun time none_ => ?_
        have there : time.zone = none := none_
        simp [Moment.isBefore?, zone, there]
  obtain ⟨inOrder, past, used, asked⟩ :=
    time_ordered Moment.comparable_zoneless (.text "main") firstDay false onTwoDays rfl zoneless
  obtain ⟨block, found, -, -, held⟩ := asked (some secondDay) none
    (by rintro moment ⟨⟩; rfl) nofun
  have times : ledger.log.map Transaction.timestamp =
      [.logical firstDay, .logical secondDay] := by
    decide +kernel
  have paid : ∀ tx ∈ ledger.log, ∃ posting ∈ tx.postings, posting.destination = "@a" := by
    decide +kernel
  have known : ("@a" : Text) ∈ ledger.accounts.keys := by decide +kernel
  obtain ⟨early, others, logged, atFirst, rest⟩ := List.map_eq_cons_iff.mp times
  obtain ⟨late, none_, rfl, atSecond, last⟩ := List.map_eq_cons_iff.mp rest
  obtain rfl := List.map_eq_nil_iff.mp last
  obtain ⟨⟨key, account⟩, listed, rfl⟩ := List.mem_map.mp known
  have mem : late ∈ ledger.log := by simp [logged]
  obtain ⟨posting, made, side⟩ := paid late mem
  refine ⟨early, late, block, account, logged, ?_, past late mem, found, ?_, ?_, listed,
    used _ account listed late mem ⟨posting, made, Or.inr side⟩⟩
  · have inOrder : ledger.log.Pairwise _ := inOrder
    rw [logged] at inOrder
    exact (List.pairwise_cons.mp inOrder).1 late List.mem_cons_self
  · refine (held late).mpr ⟨mem, ?_, nofun⟩
    rintro moment ⟨⟩
    rw [atSecond]
    exact Stamp.NotAfter.refl secondDay
  · intro inside
    have since := ((held early).mp inside).2.1 secondDay rfl
    rw [atFirst] at since
    revert since
    decide

/-- A moment of the night in which the clocks of a region are put back from three to two, so
that they show the hour from two to three twice: first two hours ahead of universal time, and
then one. -/
def inAutumn (minute : Nat) (ahead : Int) : Moment :=
  { year := 2025, month := 10, day := 26, hour := 2, minute, second := 0, microsecond := 0
    zone := some ⟨ahead * 3600 * Zone.microseconds, some "Europe/Berlin"⟩ }

/-- Three payments of that night, each at a later minute on the clock of the region. The second
was made before the hour was repeated, and the others after. -/
def inOneNight : List Request :=
  [.commit unsigned, .advance (inAutumn 20 2), .commit unsigned, .advance (inAutumn 30 1),
    .commit unsigned]

/-- Without a zone on the clock, a bound with a zone is refused, although the ledger has
transactions that its clock tells apart. And in the night in which clocks are put back the
transactions since a moment of universal time are no block of the log: the first and the third
are found, and not the second. -/
theorem time_out_of_order :
    ((create (.text "main") (some firstDay) false).serveAll onTwoDays).transactionsBy
        { account := none, metadata := [], stop := none
          start := some { firstDay with zone := some .universal } } = .error .wrongKind ∧
      (((create (.text "main") (some (inAutumn 10 1)) false).serveAll inOneNight).transactionsBy
        { account := none, metadata := [], stop := none
          start := some { inAutumn 0 0 with hour := 1, zone := some .universal } }).map
          (List.map Transaction.id) = .ok [1, 3] := by
  exact ⟨rfl, rfl⟩

end Ledger

end DoubleEntry
