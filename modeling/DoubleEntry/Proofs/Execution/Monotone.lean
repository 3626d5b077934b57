import DoubleEntry.Proofs.Execution.Pairing
import DoubleEntry.Proofs.Script.WellFormed

/-!
# More money

A script that succeeds on a ledger succeeds on every other ledger on which all accounts
hold at least as much, and leaves them with at least as much. The outside world is left
out of account, since it gives whatever is asked for.
-/

namespace DoubleEntry

namespace Source

/-! ## One source -/

variable {needed less : Nat} (le : less ≤ needed)
include le

theorem capped_mono (cap : Option Monetary) : capped cap less ≤ capped cap needed := by
  unfold capped
  split
  · exact le
  · split <;> omega

theorem capped_left_mono (cap : Option Monetary) :
    less - capped cap less ≤ needed - capped cap needed := by
  unfold capped
  split
  · omega
  · split <;> omega

variable {mayOverdraw : Bool} {available more : Int}

/-- Of what is needed, a source on a richer account leaves no more to the others. -/
theorem gives_left_mono (source : Source) (rich : mayOverdraw = true ∨ available ≤ more) :
    less - source.gives mayOverdraw more less ≤ needed - source.gives mayOverdraw available needed := by
  have caps := capped_mono le source.cap
  have rest := capped_left_mono le source.cap
  unfold gives
  dsimp only
  split
  · exact rest
  · next denied =>
      have richer := rich.resolve_left denied
      omega

/-- Of what it holds, a richer account keeps no less. -/
theorem gives_kept_mono (source : Source) (rich : available ≤ more) :
    available - source.gives mayOverdraw available needed ≤
      more - source.gives mayOverdraw more less := by
  have caps := capped_mono le source.cap
  unfold gives
  dsimp only
  split <;> omega

end Source

namespace Draw

theorem taken_of_absent {account : Text} {draws : List Draw}
    (absent : account ∉ draws.map Draw.account) : taken account draws = 0 := by
  induction draws with
  | nil => rfl
  | cons draw rest ih =>
      rw [List.map_cons, List.mem_cons, not_or] at absent
      rw [taken_cons, if_neg (Ne.symm absent.1), ih absent.2]

/-- A draw of nothing can be left out. -/
theorem taken_ite (account : Text) (draw : Draw) (rest : List Draw) :
    taken account (if draw.amount = 0 then rest else draw :: rest) =
      (if draw.account = account then draw.amount else 0) + taken account rest := by
  split
  · next none => rw [none, ite_self, Nat.zero_add]
  · exact taken_cons account draw rest

theorem total_ite (draw : Draw) (rest : List Draw) :
    total (if draw.amount = 0 then rest else draw :: rest) = draw.amount + total rest := by
  split
  · next none => rw [none, Nat.zero_add]
  · exact total_cons draw rest

end Draw

namespace Ledger

variable {ledger other : Ledger} {vars : Variables} {asset : Text} {sources : List Source}

/-- Whether every account but the outside world holds in another ledger at least what it
holds in a ledger, of every asset. -/
def NoRicher (ledger other : Ledger) : Prop :=
  ∀ address asset, Address.normalize address ≠ Address.world →
    ledger.balance address asset ≤ other.balance address asset

theorem NoRicher.held (richer : ledger.NoRicher other) {account : Text}
    (full : Address.normalize account = account) (inside : account ≠ Address.world) (asset : Text) :
    ledger.balance account asset ≤ other.balance account asset := by
  apply richer
  rw [full]
  exact inside

/-- What comes from the outside world makes nobody poorer. -/
theorem noRicher_transfer (ledger : Ledger) {posting : Posting} (full : posting.isFull)
    (outside : posting.source = Address.world) : ledger.NoRicher (ledger.transfer posting) := by
  intro address asset inside
  have unpaid : ¬(posting.source = Address.normalize address ∧ posting.asset = asset) :=
    fun both => inside (both.1.symm.trans outside)
  rw [balance_transfer ledger full, if_neg unpaid]
  split <;> omega

/-! ## The waterfall -/

theorem drawFrom_total {overlay : Overlay} {needed left : Nat} {draws : List Draw}
    (h : ledger.drawFrom overlay vars asset needed sources = .ok (draws, left)) :
    Draw.total draws + left = needed := by
  induction sources generalizing needed draws with
  | nil =>
      rw [drawFrom] at h
      obtain ⟨rfl, rfl⟩ := Prod.mk.inj (Except.ok.inj h)
      exact Nat.zero_add needed
  | cons source rest ih =>
      cases needed with
      | zero =>
          rw [drawFrom] at h
          obtain ⟨rfl, rfl⟩ := Prod.mk.inj (Except.ok.inj h)
          rfl
      | succ needed =>
          obtain ⟨account, others, found, drawn, rfl⟩ := drawFrom_succ.mp h
          have within : ledger.given overlay asset source account (needed + 1) ≤ needed + 1 :=
            source.gives_le _ _ _
          have behind := ih drawn
          rw [Draw.total_ite ⟨account, ledger.given overlay asset source account (needed + 1), _⟩]
          dsimp only
          omega

section Richer

variable (richer : ledger.NoRicher other)
include richer

section Given

variable (source : Source) {account : Text} {needed less : Nat}
  (full : Address.normalize account = account) (le : less ≤ needed)
include full le

theorem given_left_mono :
    less - other.given [] asset source account less ≤
      needed - ledger.given [] asset source account needed := by
  apply Source.gives_left_mono le
  by_cases outside : account = Address.world
  · left
    rw [decide_eq_true outside, Bool.or_true]
  · right
    rw [Overlay.Foresees.start, Overlay.Foresees.start]
    exact richer.held full outside asset

theorem given_kept_mono (inside : account ≠ Address.world) :
    ledger.balance account asset - ledger.given [] asset source account needed ≤
      other.balance account asset - other.given [] asset source account less := by
  rw [given, given, Overlay.Foresees.start, Overlay.Foresees.start]
  exact Source.gives_kept_mono le source (richer.held full inside asset)

end Given

/-- Whether every account keeps at least as much behind draws on another ledger as it does
behind draws on a ledger. -/
def KeepsNoLess (ledger other : Ledger) (asset : Text) (draws others : List Draw) : Prop :=
  ∀ account, Address.normalize account = account → account ≠ Address.world →
    ledger.balance account asset - Draw.taken account draws ≤
      other.balance account asset - Draw.taken account others

/-- On a richer ledger no more is still needed at the end, and every account keeps no
less. -/
theorem drawFrom_mono (distinct : (Source.accounts vars sources).Nodup) {needed less left : Nat}
    (le : less ≤ needed) {draws : List Draw}
    (h : ledger.drawFrom [] vars asset needed sources = .ok (draws, left)) :
    ∃ others still, other.drawFrom [] vars asset less sources = .ok (others, still) ∧
      still ≤ left ∧ ledger.KeepsNoLess other asset draws others := by
  induction sources generalizing needed less draws with
  | nil =>
      rw [drawFrom] at h
      obtain ⟨rfl, rfl⟩ := Prod.mk.inj (Except.ok.inj h)
      refine ⟨[], less, by rw [drawFrom], le, fun account full inside => ?_⟩
      exact Int.sub_le_sub_right (richer.held full inside asset) _
  | cons source rest ih =>
      cases less with
      | zero =>
          refine ⟨[], 0, by rw [drawFrom], Nat.zero_le left, fun account full inside => ?_⟩
          have held := richer.held full inside asset
          have none : Draw.taken account [] = 0 := rfl
          omega
      | succ less =>
          obtain ⟨needed, rfl⟩ : ∃ more, needed = more + 1 := ⟨needed - 1, by omega⟩
          obtain ⟨account, others, found, drawn, rfl⟩ := drawFrom_succ.mp h
          rw [Source.accounts_cons found, List.nodup_cons] at distinct
          obtain ⟨absent, distinct⟩ := distinct
          have full := Script.resolve_isFull found
          obtain ⟨later, still, drawn', short, kept⟩ :=
            ih distinct (given_left_mono richer source full le) drawn
          refine ⟨_, still, drawFrom_succ.mpr ⟨account, later, found, drawn', rfl⟩, short, ?_⟩
          intro payer whole inside
          rw [Draw.taken_ite payer ⟨account, ledger.given [] asset source account (needed + 1), _⟩,
            Draw.taken_ite payer ⟨account, other.given [] asset source account (less + 1), _⟩]
          dsimp only
          by_cases here : account = payer
          · -- The other sources name other accounts, so nothing else is drawn from this one.
            subst here
            have unused {draws : List Draw} {ledger : Ledger} {needed left : Nat}
                (h : ledger.drawFrom [] vars asset needed rest = .ok (draws, left)) :
                Draw.taken account draws = 0 :=
              Draw.taken_of_absent fun mem => absent ((drawFrom_accounts h).subset mem)
            rw [if_pos rfl, if_pos rfl, unused drawn, unused drawn']
            exact given_kept_mono richer source full le inside
          · rw [if_neg here, if_neg here, Nat.zero_add, Nat.zero_add]
            exact kept payer whole inside

theorem draw_mono (distinct : (Source.accounts vars sources).Nodup) {total : Nat} {draws : List Draw}
    (h : ledger.draw [] vars asset sources total = .ok draws) :
    ∃ others, other.draw [] vars asset sources total = .ok others ∧
      Draw.total draws ≤ Draw.total others ∧ ledger.KeepsNoLess other asset draws others := by
  obtain ⟨left, drawn, covered⟩ := draw_eq_ok.mp h
  obtain ⟨others, still, drawn', short, kept⟩ := drawFrom_mono richer distinct (Nat.le_refl total) drawn
  have here := drawFrom_total drawn
  have there := drawFrom_total drawn'
  refine ⟨others, draw_eq_ok.mpr ⟨still, drawn', ?_⟩, by omega, kept⟩
  exact covered.imp_left fun none => by omega

end Richer

/-! ## One send -/

/-- What is paid out of draws that keep no less on a richer ledger leaves it richer. -/
theorem NoRicher.pays (richer : ledger.NoRicher other) {draws others : List Draw}
    {allocations : List Allocation} {postings payments : List Posting}
    (kept : ledger.KeepsNoLess other asset draws others)
    (more : Draw.total draws ≤ Draw.total others) (paid : Pays asset draws allocations postings)
    (pays : Pays asset others allocations payments) :
    (ledger.transferAll postings).NoRicher (other.transferAll payments) := by
  intro address unit inside
  rw [balance_transferAll ledger paid.full, balance_transferAll other pays.full]
  by_cases same : unit = asset
  · subst same
    have left := kept (Address.normalize address) (Address.normalize_normalize address) inside
    have gets := Allocation.received_mono (Address.normalize address) (Int.ofNat_le.mpr more)
      allocations
    rw [balance_normalize, balance_normalize] at left
    rw [paid.debited, paid.credited, pays.debited, pays.credited]
    omega
  · have untouched {postings : List Posting} (uniform : ∀ posting ∈ postings, posting.asset = asset)
        (side : Posting → Text) :
        Posting.moved side postings (Address.normalize address) unit = 0 :=
      Posting.moved_of_others (fun posting mem => by rw [uniform posting mem]; exact Ne.symm same)
        side _
    rw [Posting.debited, Posting.credited, untouched paid.unit, untouched paid.unit,
      untouched pays.unit, untouched pays.unit]
    have held := richer address unit inside
    omega

section Split

variable {send : Send} (formed : send.IsWellFormed) {overlay : Overlay} {total : Nat}
  {draws : List Draw} {allocations : List Allocation}
  (drawn : ledger.draw overlay vars send.monetary.asset send.sources total = .ok draws)
  (split : Destination.split vars total send.destinations = .ok allocations)
include formed drawn split

/-- What is drawn for a send is paid out to any split of its amount, unless there is nobody to
get anything. -/
theorem exists_pair_of_split :
    ∃ postings, pair send.monetary.asset draws allocations = .ok postings ∧
      (allocations = [] ∧ postings = [] ∨
        allocations ≠ [] ∧ Pays send.monetary.asset draws allocations postings) := by
  have handed := Destination.handsOut_split formed.portions (Int.natCast_nonneg total) split
  obtain ⟨left, waterfall, -⟩ := draw_eq_ok.mp drawn
  by_cases nobody : allocations = []
  · rw [nobody]
    exact ⟨[], pair_nil _ draws, Or.inl ⟨rfl, rfl⟩⟩
  · have whole := handed.whole.resolve_left nobody
    have within := drawFrom_total waterfall
    have full : ∀ draw ∈ draws, Address.normalize draw.account = draw.account := by
      intro draw mem
      obtain ⟨source, -, allowed⟩ := mem_drawFrom waterfall mem
      exact Script.resolve_isFull allowed.1
    obtain ⟨postings, paired, pays⟩ :=
      exists_pair formed.asset full handed.full handed.nonneg (by omega)
    exact ⟨postings, paired, Or.inr ⟨nobody, pays⟩⟩

theorem pays_of_pair {postings : List Posting}
    (paired : pair send.monetary.asset draws allocations = .ok postings) :
    allocations = [] ∧ postings = [] ∨
      allocations ≠ [] ∧ Pays send.monetary.asset draws allocations postings := by
  obtain ⟨made, paired', outcome⟩ := exists_pair_of_split formed drawn split
  obtain rfl := Except.ok.inj (paired.symm.trans paired')
  exact outcome

end Split

/-- A send that is worked out on a ledger is worked out on a richer one, and leaves it
richer. -/
theorem sendPostings_mono (richer : ledger.NoRicher other) {send : Send}
    (formed : send.IsWellFormed) (distinct : (Source.accounts [] send.sources).Nodup)
    {postings : List Posting} (h : ledger.sendPostings [] [] send = .ok postings) :
    ∃ payments, other.sendPostings [] [] send = .ok payments ∧
      (ledger.transferAll (postings.map Posting.normalize)).NoRicher
        (other.transferAll (payments.map Posting.normalize)) := by
  obtain ⟨total, draws, allocations, asked, drawn, split, paired⟩ := sendPostings_eq_ok.mp h
  obtain ⟨others, drawn', more, kept⟩ := draw_mono richer distinct drawn
  obtain ⟨payments, paying, outcome⟩ := exists_pair_of_split formed drawn' split
  refine ⟨payments,
    sendPostings_eq_ok.mpr ⟨total, others, allocations, asked, drawn', split, paying⟩, ?_⟩
  rcases pays_of_pair formed drawn split paired with ⟨rfl, rfl⟩ | ⟨some_, paid⟩
  · obtain ⟨-, rfl⟩ := outcome.resolve_right fun both => both.1 rfl
    exact richer
  · obtain ⟨-, pays⟩ := outcome.resolve_left fun both => some_ both.1
    have full {postings : List Posting} (full : ∀ posting ∈ postings, posting.isFull) :
        postings.map Posting.normalize = postings :=
      (List.map_congr_left full).trans (List.map_id' postings)
    rw [full paid.full, full pays.full]
    exact richer.pays kept more paid pays

/-! ## Plans and transactions -/

/-- A plan that is made on a ledger is made on a richer one, and leaves it richer. -/
theorem executeSends_mono {reached arrived : Ledger} {overlay layer : Overlay}
    (foreseen : overlay.Foresees ledger reached) (expected : layer.Foresees other arrived)
    (richer : reached.NoRicher arrived) {sends : List Send}
    (formed : ∀ send ∈ sends, send.IsWellFormed)
    (distinct : ∀ send ∈ sends, (Source.accounts [] send.sources).Nodup)
    {postings : List Posting} {last : Overlay}
    (planned : ledger.executeSends [] overlay sends = .ok (postings, last)) :
    ∃ payments final, other.executeSends [] layer sends = .ok (payments, final) ∧
      (reached.transferAll (postings.map Posting.normalize)).NoRicher
        (arrived.transferAll (payments.map Posting.normalize)) := by
  induction sends generalizing overlay layer reached arrived postings with
  | nil =>
      obtain ⟨rfl, -⟩ := executeSends_nil.mp planned
      exact ⟨[], layer, rfl, richer⟩
  | cons send rest ih =>
      obtain ⟨here, behind, worked, later, rfl⟩ := executeSends_cons.mp planned
      obtain ⟨formedHere, formedLater⟩ := List.forall_mem_cons.mp formed
      obtain ⟨distinctHere, distinctLater⟩ := List.forall_mem_cons.mp distinct
      -- Over its overlay a send is worked out as on the ledger that the overlay foresees.
      have alone {ledger reached : Ledger} {overlay : Overlay}
          (foreseen : overlay.Foresees ledger reached) :
          ledger.sendPostings overlay [] send = reached.sendPostings [] [] send := by
        refine sendPostings_congr (fun account asset => ?_) [] send
        rw [foreseen, Overlay.Foresees.start]
      rw [alone foreseen] at worked
      obtain ⟨there, worked', left⟩ := sendPostings_mono richer formedHere distinctHere worked
      obtain ⟨others, final, later', last⟩ := ih (foreseen.postAll here) (expected.postAll there) left
        formedLater distinctLater later
      refine ⟨there ++ others, final, executeSends_cons.mpr ⟨there, others, ?_, later', rfl⟩, ?_⟩
      · rw [alone expected]
        exact worked'
      · rw [List.map_append, List.map_append, transferAll_append, transferAll_append]
        exact last

/-- More money never makes a script fail. If the sends of a script were read, each names
different accounts, and the script can be worked out and committed on a ledger, then so it
can on every ledger on which all accounts but the outside world hold at least as much, and
they do so again afterwards. -/
theorem transact_mono {ledger other : Ledger} {script : Script}
    (read : ∀ send ∈ script.sends, ∃ statement, Send.ofText statement = .ok send)
    (distinct : ∀ send ∈ script.sends, (Source.accounts [] send.sources).Nodup)
    (richer : ledger.NoRicher other) {tx : Transaction} {after : Ledger}
    (made : (ledger.propose script >>= ledger.commit) = .ok (tx, after)) :
    ∃ answer later, (other.propose script >>= other.commit) = .ok (answer, later) ∧
      after.NoRicher later := by
  obtain ⟨proposal, proposed, committed⟩ := bind_eq_ok.mp made
  obtain ⟨postings, overlay, overdrafts, planned, granted, rfl⟩ := propose_eq_ok.mp proposed
  have formed : ∀ send ∈ script.sends, send.IsWellFormed := by
    intro send mem
    obtain ⟨statement, spelled⟩ := read send mem
    exact Send.isWellFormed_ofText spelled
  obtain ⟨payments, final, planned', left⟩ := executeSends_mono (Overlay.Foresees.start ledger)
    (Overlay.Foresees.start other) richer formed distinct planned
  have proposed' := propose_eq_ok.mpr ⟨payments, final, overdrafts, planned', granted, rfl⟩
  obtain ⟨answer, later, committed'⟩ := commit_of_distinct proposed' distinct
  refine ⟨answer, later, bind_eq_ok.mpr ⟨_, proposed', committed'⟩, ?_⟩
  intro address asset inside
  rw [balance_commit committed, balance_commit committed']
  exact left address asset inside

/-- A send from two accounts. -/
def pooled : Send :=
  { monetary := { asset := "USD/2", quantity := .exactly 15 }
    sources := [{ account := "@a", cap := none, overdraft := .refused },
      { account := "@b", cap := none, overdraft := .refused }]
    destinations := [{ receiver := .account "@c", portion := none }] }

/-- A ledger on which the accounts can afford the send. -/
def sufficient : Ledger :=
  (create (.text "main") none false).transferAll
    [⟨"@world", "@a", "USD/2", 10⟩, ⟨"@world", "@b", "USD/2", 10⟩]

/-- The ledger with more money in the first account. -/
def plentiful : Ledger := sufficient.transfer ⟨"@world", "@a", "USD/2", 2⟩

/-- The send succeeds on the ledger, so it does with more money. -/
theorem pooled_transacts :
    Send.ofText "send [USD/2 15] ( source = { @a @b } destination = @c )" = .ok pooled ∧
      (Source.accounts [] pooled.sources).Nodup ∧ sufficient.NoRicher plentiful ∧
      ∃ tx after answer later,
        (sufficient.propose (.ofSends [pooled]) >>= sufficient.commit) = .ok (tx, after) ∧
        (plentiful.propose (.ofSends [pooled]) >>= plentiful.commit) = .ok (answer, later) ∧
        after.NoRicher later := by
  have read : Send.ofText "send [USD/2 15] ( source = { @a @b } destination = @c )" =
      .ok pooled := toOption_eq_some.mp (by decide +kernel)
  have distinct : (Source.accounts [] pooled.sources).Nodup := by decide +kernel
  have richer : sufficient.NoRicher plentiful := noRicher_transfer sufficient rfl rfl
  have succeeds : (sufficient.propose (.ofSends [pooled]) >>= sufficient.commit).isOk = true := by
    decide +kernel
  cases made : sufficient.propose (.ofSends [pooled]) >>= sufficient.commit with
  | error fault =>
      rw [made] at succeeds
      cases succeeds
  | ok result =>
      obtain ⟨tx, after⟩ := result
      obtain ⟨answer, later, committed, left⟩ := @transact_mono _ _ (.ofSends [pooled])
        (List.forall_mem_singleton.mpr ⟨_, read⟩) (List.forall_mem_singleton.mpr distinct) richer
        _ _ made
      exact ⟨read, distinct, richer, tx, after, answer, later, rfl, committed, left⟩

end Ledger

end DoubleEntry
