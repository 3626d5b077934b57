import DoubleEntry.Proofs.Execution.Sequence

/-!
# When plans are accepted

Funds are checked twice: for each source while a send is worked out, and for each posting
when the plan is committed. What a source gives is not taken off before the next source is
asked, so an account without an overdraft that a send draws on more than once can be asked
for more than it holds. This is the only way in which a plan that was worked out can be
refused.
-/

namespace DoubleEntry

namespace Draw

/-! ## Draws on one account -/

/-- The draws on an account. -/
def on (account : Text) (draws : List Draw) : List Draw :=
  draws.filter fun draw => draw.account = account

/-- What is drawn from an account altogether. -/
def taken (account : Text) (draws : List Draw) : Nat := ((on account draws).map amount).sum

theorem taken_cons (account : Text) (draw : Draw) (rest : List Draw) :
    taken account (draw :: rest) =
      (if draw.account = account then draw.amount else 0) + taken account rest := by
  by_cases h : draw.account = account <;> simp [taken, on, h]

theorem taken_of_once {account : Text} {draws : List Draw} (once : (on account draws).length < 2)
    {draw : Draw} (mem : draw ∈ draws) (here : draw.account = account) :
    taken account draws = draw.amount := by
  have listed : draw ∈ on account draws := List.mem_filter.mpr ⟨mem, by simp [here]⟩
  have alone : on account draws = [draw] := by
    match same : on account draws with
    | [] =>
        rw [same] at listed
        cases listed
    | [single] =>
        rw [same] at listed
        rw [List.mem_singleton.mp listed]
    | first :: second :: rest =>
        rw [same, List.length_cons, List.length_cons] at once
        omega
  rw [taken, alone, List.map_singleton, List.sum_singleton]

end Draw

namespace Source

/-- The accounts that sources name. A source that is still a variable names none. -/
def accounts (vars : Variables) (sources : List Source) : List Text :=
  sources.filterMap fun source => (Script.resolve vars source.account).toOption

theorem accounts_cons {vars : Variables} {source : Source} {account : Text}
    (found : Script.resolve vars source.account = .ok account) (rest : List Source) :
    accounts vars (source :: rest) = account :: accounts vars rest := by
  rw [accounts, List.filterMap_cons, found]
  rfl

theorem accounts_sublist (vars : Variables) (source : Source) (rest : List Source) :
    (accounts vars rest).Sublist (accounts vars (source :: rest)) :=
  (List.sublist_cons_self source rest).filterMap _

theorem gives_le_available {source : Source} {available : Int} {needed : Nat}
    (given : 0 < source.gives false available needed) :
    (source.gives false available needed : Int) ≤ available := by
  have most : source.gives false available needed ≤ available.toNat := Nat.min_le_right _ _
  omega

end Source

theorem Posting.make_eq_ok {source destination asset : Text} {amount : Int} {posting : Posting}
    (h : Posting.make source destination asset amount = .ok posting) :
    posting.source = source ∧ posting.destination = destination ∧ posting.asset = asset ∧
      (posting.amount : Int) = amount := by
  have spelled {missing : Fault} {text : Text} {read : Text}
      (h : Posting.nonblank missing (.text text) = .ok read) : read = text := by
    unfold Posting.nonblank at h
    split at h
    · cases h
    · dsimp only at h
      split at h
      · cases h
      · exact (Except.ok.inj h).symm
  obtain ⟨from_, readSource, afterSource⟩ := bind_eq_ok.mp h
  obtain ⟨to_, readDestination, afterDestination⟩ := bind_eq_ok.mp afterSource
  obtain ⟨unit, readAsset, last⟩ := bind_eq_ok.mp afterDestination
  obtain rfl := spelled readSource
  obtain rfl := spelled readDestination
  obtain rfl := spelled readAsset
  cases amount with
  | ofNat amount =>
      obtain rfl := Except.ok.inj last
      exact ⟨rfl, rfl, rfl, rfl⟩
  | negSucc amount => cases last

namespace Ledger

variable {overdrafts : Entries Text Bool} {ledger reached : Ledger} {overlay : Overlay}
  {asset : Text}

/-! ## Draws that are held -/

/-- Whether each account that draws are on may go below zero or holds all of them
together. -/
def Holds (overdrafts : Entries Text Bool) (ledger : Ledger) (asset : Text)
    (draws : List Draw) : Prop :=
  ∀ draw ∈ draws, Address.normalize draw.account = draw.account ∧
    (mayOverdraw overdrafts draw.account = true ∨
      (Draw.taken draw.account draws : Int) ≤ ledger.balance draw.account asset)

/-- Behind a posting the remaining draws are held, if it takes what they are less. -/
theorem Holds.transfer {draws rest : List Draw} (holds : Holds overdrafts reached asset draws)
    {posting : Posting} (full : posting.isFull)
    (accounts : ∀ draw ∈ rest, ∃ known ∈ draws, known.account = draw.account)
    (less : ∀ account, Draw.taken account rest +
      (if posting.source = account then posting.amount else 0) ≤ Draw.taken account draws) :
    Holds overdrafts (reached.transfer posting) asset rest := by
  intro draw mem
  obtain ⟨known, listed, same⟩ := accounts draw mem
  obtain ⟨spelled, held⟩ := holds known listed
  rw [same] at spelled held
  refine ⟨spelled, held.imp_right fun within => ?_⟩
  have moved := balance_transfer reached full draw.account asset
  have left := less draw.account
  rw [spelled] at moved
  by_cases paying : posting.source = draw.account
  · rw [if_pos paying] at left
    split_ifs at moved <;> omega
  · have unpaid : ¬(posting.source = draw.account ∧ posting.asset = asset) :=
      fun both => paying both.1
    rw [if_neg paying] at left
    rw [if_neg unpaid] at moved
    split_ifs at moved <;> omega

/-- The first of the held draws can be paid, in part or as a whole. -/
theorem Holds.pay {draw : Draw} {rest : List Draw} (holds : Holds overdrafts reached asset (draw :: rest))
    {posting : Posting} (source : posting.source = draw.account) (unit : posting.asset = asset)
    (part : posting.amount ≤ draw.amount) :
    mayOverdraw overdrafts posting.normalize.source = true ∨
      (posting.normalize.amount : Int) ≤
        reached.balance posting.normalize.source posting.normalize.asset := by
  obtain ⟨spelled, held⟩ := holds draw List.mem_cons_self
  rw [Draw.taken_cons, if_pos rfl] at held
  rw [Posting.normalize_source, Posting.normalize_asset, Posting.normalize_amount, source, spelled,
    unit]
  refine held.imp_right fun within => ?_
  omega

/-- Held draws can be paid out if a part of the first can, and then what is left. -/
theorem Holds.affords {draw : Draw} {draws : List Draw}
    (holds : Holds overdrafts reached asset (draw :: draws)) {receiver : Text} {part : Int}
    (within : part ≤ draw.amount) {later : Except Fault (List Posting)} {postings : List Posting}
    (paired : (do
      let posting ← Posting.make draw.account receiver asset part
      let rest ← later
      return posting :: rest) = .ok postings)
    (left : ∀ (posting : Posting) rest, posting.normalize.source = draw.account →
      (posting.normalize.amount : Int) = part → later = .ok rest →
      Affords overdrafts (reached.transfer posting.normalize) (rest.map Posting.normalize)) :
    Affords overdrafts reached (postings.map Posting.normalize) := by
  obtain ⟨posting, rest, made, remaining, rfl⟩ := cons_eq_ok.mp paired
  obtain ⟨source, -, unit, amount⟩ := Posting.make_eq_ok made
  have spelled := (holds draw List.mem_cons_self).1
  refine ⟨holds.pay source unit (by omega), left posting rest ?_ amount remaining⟩
  rw [Posting.normalize_source, source, spelled]

/-- Held draws can be paid out to any allocations. -/
theorem affords_pair {draws : List Draw} {allocations : List Allocation} {postings : List Posting}
    (holds : Holds overdrafts reached asset draws)
    (paired : pair asset draws allocations = .ok postings) :
    Affords overdrafts reached (postings.map Posting.normalize) := by
  induction draws, allocations using pair.induct generalizing reached postings with
  | case1 allocations =>
      rw [pair] at paired
      obtain rfl := Except.ok.inj paired
      trivial
  | case2 draws nonempty =>
      rw [pair] at paired
      · obtain rfl := Except.ok.inj paired
        trivial
      · exact nonempty
  | case3 draw draws allocation allocations used ih =>
      rw [pair, if_pos used] at paired
      refine ih (fun other mem => ?_) paired
      obtain ⟨spelled, held⟩ := holds other (List.mem_cons_of_mem _ mem)
      rw [Draw.taken_cons, used, ite_self, Nat.zero_add] at held
      exact ⟨spelled, held⟩
  | case4 draw draws allocation allocations unused filled ih =>
      rw [pair, if_neg unused, if_pos filled] at paired
      exact ih holds paired
  | case5 draw draws allocation allocations unused unfilled fits ih =>
      rw [pair, if_neg unused, if_neg unfilled, if_pos fits] at paired
      refine holds.affords (Int.le_refl _) paired fun posting rest source amount remaining => ?_
      refine ih (holds.transfer posting.isFull_normalize
        (fun other mem => ⟨other, List.mem_cons_of_mem _ mem, rfl⟩) fun account => ?_) remaining
      rw [source, Draw.taken_cons]
      split_ifs <;> omega
  | case6 draw draws allocation allocations unused unfilled exceeds ih =>
      rw [pair, if_neg unused, if_neg unfilled, if_neg exceeds] at paired
      refine holds.affords (by omega) paired fun posting rest source amount remaining => ?_
      refine ih (holds.transfer posting.isFull_normalize (fun other mem => ?_) fun account => ?_)
        remaining
      · rcases List.mem_cons.mp mem with rfl | behind
        · exact ⟨draw, List.mem_cons_self, rfl⟩
        · exact ⟨other, List.mem_cons_of_mem _ behind, rfl⟩
      · rw [source, Draw.taken_cons, Draw.taken_cons]
        dsimp only
        split_ifs <;> omega

/-! ## What is drawn -/

/-- Whether a draw is one that a source allows on its own. -/
def Allows (ledger : Ledger) (overlay : Overlay) (vars : Variables) (asset : Text)
    (source : Source) (draw : Draw) : Prop :=
  Script.resolve vars source.account = .ok draw.account ∧
    (source.overdraft.isGranted = true ∨ draw.account = Address.world ∨
      (draw.amount : Int) ≤ overlay.effective ledger draw.account asset)

/-- What a source gives from an account. -/
def given (ledger : Ledger) (overlay : Overlay) (asset : Text) (source : Source) (account : Text)
    (needed : Nat) : Nat :=
  source.gives (source.overdraft.isGranted || account = Address.world)
    (overlay.effective ledger account asset) needed

theorem drawFrom_succ {vars : Variables} {needed left : Nat} {source : Source}
    {rest : List Source} {draws : List Draw} :
    ledger.drawFrom overlay vars asset (needed + 1) (source :: rest) = .ok (draws, left) ↔
      ∃ account others, Script.resolve vars source.account = .ok account ∧
        ledger.drawFrom overlay vars asset
          (needed + 1 - ledger.given overlay asset source account (needed + 1)) rest =
            .ok (others, left) ∧
        draws = if ledger.given overlay asset source account (needed + 1) = 0 then others
          else ⟨account, ledger.given overlay asset source account (needed + 1),
            source.overdraft.isGranted || account = Address.world⟩ :: others := by
  rw [drawFrom, bind_eq_ok]
  · constructor
    · rintro ⟨account, found, later⟩
      obtain ⟨⟨others, behind⟩, drawn, joined⟩ := bind_eq_ok.mp later
      obtain ⟨listed, rfl⟩ := Prod.mk.inj (Except.ok.inj joined)
      exact ⟨account, others, found, drawn, listed.symm⟩
    · rintro ⟨account, others, found, drawn, rfl⟩
      exact ⟨account, found, bind_eq_ok.mpr ⟨_, drawn, rfl⟩⟩
  · exact Nat.succ_ne_zero needed

theorem drawFrom_cons {vars : Variables} {needed left : Nat} {source : Source}
    {rest : List Source} {draws : List Draw}
    (h : ledger.drawFrom overlay vars asset needed (source :: rest) = .ok (draws, left)) :
    draws = [] ∨ ∃ still others, ledger.drawFrom overlay vars asset still rest = .ok (others, left) ∧
      (draws = others ∨
        ∃ draw, draws = draw :: others ∧ ledger.Allows overlay vars asset source draw) := by
  cases needed with
  | zero =>
      rw [drawFrom] at h
      obtain ⟨rfl, -⟩ := Prod.mk.inj (Except.ok.inj h)
      exact Or.inl rfl
  | succ needed =>
      obtain ⟨account, others, found, drawn, listed⟩ := drawFrom_succ.mp h
      refine Or.inr ⟨_, others, drawn, ?_⟩
      by_cases none : ledger.given overlay asset source account (needed + 1) = 0
      · exact Or.inl (listed.trans (if_pos none))
      · refine Or.inr ⟨_, listed.trans (if_neg none), found, ?_⟩
        by_cases granted : source.overdraft.isGranted = true
        · exact Or.inl granted
        · by_cases outside : account = Address.world
          · exact Or.inr (Or.inl outside)
          · have refused : (source.overdraft.isGranted || decide (account = Address.world)) =
                false := by simp [granted, outside]
            refine Or.inr (Or.inr ?_)
            rw [given, refused] at none ⊢
            exact Source.gives_le_available (Nat.pos_of_ne_zero none)

theorem mem_drawFrom {vars : Variables} {needed left : Nat} {sources : List Source}
    {draws : List Draw}
    (h : ledger.drawFrom overlay vars asset needed sources = .ok (draws, left)) {draw : Draw}
    (mem : draw ∈ draws) : ∃ source ∈ sources, ledger.Allows overlay vars asset source draw := by
  induction sources generalizing needed draws left with
  | nil =>
      rw [drawFrom] at h
      obtain ⟨rfl, -⟩ := Prod.mk.inj (Except.ok.inj h)
      cases mem
  | cons source rest ih =>
      rcases drawFrom_cons h with rfl | ⟨still, others, drawn, rfl | ⟨first, rfl, allowed⟩⟩
      · cases mem
      · exact List.exists_mem_cons_of_exists (ih drawn mem)
      · rcases List.mem_cons.mp mem with rfl | behind
        · exact ⟨source, List.mem_cons_self, allowed⟩
        · exact List.exists_mem_cons_of_exists (ih drawn behind)

theorem drawFrom_accounts {vars : Variables} {needed left : Nat} {sources : List Source}
    {draws : List Draw}
    (h : ledger.drawFrom overlay vars asset needed sources = .ok (draws, left)) :
    (draws.map Draw.account).Sublist (Source.accounts vars sources) := by
  induction sources generalizing needed draws left with
  | nil =>
      rw [drawFrom] at h
      obtain ⟨rfl, -⟩ := Prod.mk.inj (Except.ok.inj h)
      exact List.nil_sublist _
  | cons source rest ih =>
      rcases drawFrom_cons h with rfl | ⟨still, others, drawn, rfl | ⟨first, rfl, found, -⟩⟩
      · exact List.nil_sublist _
      · exact (ih drawn).trans (Source.accounts_sublist vars source rest)
      · rw [Source.accounts_cons found]
        exact (ih drawn).cons_cons _

theorem draw_eq_ok {vars : Variables} {sources : List Source} {total : Nat} {draws : List Draw} :
    ledger.draw overlay vars asset sources total = .ok draws ↔
      ∃ left, ledger.drawFrom overlay vars asset total sources = .ok (draws, left) ∧
        (left = 0 ∨ sources.any (coversShortfall vars) = true) := by
  rw [draw, bind_eq_ok]
  constructor
  · rintro ⟨⟨given, left⟩, drawn, later⟩
    dsimp only at later
    by_cases short : (decide (0 < left) && !sources.any (coversShortfall vars)) = true
    · rw [if_pos short] at later
      cases later
    · rw [if_neg short] at later
      obtain rfl := Except.ok.inj later
      refine ⟨left, drawn, ?_⟩
      by_contra uncovered
      obtain ⟨some_, nobody⟩ := not_or.mp uncovered
      exact short (by simp [Nat.pos_of_ne_zero some_, nobody])
  · rintro ⟨left, drawn, covered⟩
    refine ⟨(draws, left), drawn, ?_⟩
    have enough : ¬(decide (0 < left) && !sources.any (coversShortfall vars)) = true := by
      rcases covered with rfl | stands
      · simp
      · simp [stands]
    dsimp only
    rw [if_neg enough]
    rfl

/-! ## Sends that overreach -/

/-- Whether a send draws on an account more than once, and more than it holds altogether. -/
def Overreaches (ledger : Ledger) (overlay : Overlay) (send : Send) (account : Text) : Prop :=
  ∃ total draws, send.monetary.quantity = .exactly total ∧
    ledger.draw overlay [] send.monetary.asset send.sources total = .ok draws ∧
    2 ≤ (Draw.on account draws).length ∧
    overlay.effective ledger account send.monetary.asset < Draw.taken account draws

theorem Allows.held {send : Send} {source : Source} {draw : Draw}
    (covers : Script.Covers overdrafts [send]) (listed : source ∈ send.sources)
    (allowed : ledger.Allows overlay [] asset source draw) :
    mayOverdraw overdrafts draw.account = true ∨
      (draw.amount : Int) ≤ overlay.effective ledger draw.account asset := by
  obtain ⟨found, may | outside | within⟩ := allowed
  · refine Or.inl (covers source.account ?_ draw.account found)
    refine List.mem_flatMap.mpr ⟨send, List.mem_singleton_self send, ?_⟩
    exact List.mem_map.mpr ⟨source, List.mem_filter.mpr ⟨listed, may⟩, rfl⟩
  · exact Or.inl ((mayOverdraw_iff _ _).mpr (Or.inl outside))
  · exact Or.inr within

/-- The draws of a send are held unless it overreaches. -/
theorem holds_or_overreaches (foreseen : overlay.Foresees ledger reached) {send : Send}
    (covers : Script.Covers overdrafts [send]) {total : Nat}
    (asked : send.monetary.quantity = .exactly total) {draws : List Draw}
    (drawn : ledger.draw overlay [] send.monetary.asset send.sources total = .ok draws) :
    Holds overdrafts reached send.monetary.asset draws ∨
      ∃ account, ¬mayOverdraw overdrafts account = true ∧ ledger.Overreaches overlay send account := by
  refine or_iff_not_imp_right.mpr fun modest => ?_
  intro draw mem
  obtain ⟨left, waterfall, -⟩ := draw_eq_ok.mp drawn
  obtain ⟨source, listed, allowed⟩ := mem_drawFrom waterfall mem
  refine ⟨Script.resolve_isFull allowed.1, ?_⟩
  refine or_iff_not_imp_left.mpr fun denied => ?_
  rw [← foreseen]
  by_cases once : (Draw.on draw.account draws).length < 2
  · rw [Draw.taken_of_once once mem rfl]
    exact (allowed.held covers listed).resolve_left denied
  · by_contra short
    exact modest ⟨draw.account, denied, total, draws, asked, drawn, by omega, by omega⟩

theorem sendPostings_eq_ok {vars : Variables} {send : Send} {postings : List Posting} :
    ledger.sendPostings overlay vars send = .ok postings ↔
      ∃ total draws allocations, send.monetary.quantity = .exactly total ∧
        ledger.draw overlay vars send.monetary.asset send.sources total = .ok draws ∧
        Destination.split vars total send.destinations = .ok allocations ∧
        pair send.monetary.asset draws allocations = .ok postings := by
  unfold sendPostings
  cases asked : send.monetary.quantity with
  | everything =>
      constructor
      · rintro ⟨⟩
      · rintro ⟨total, draws, allocations, ⟨⟩, -⟩
  | exactly total =>
      dsimp only
      constructor
      · intro h
        obtain ⟨draws, drawn, later⟩ := bind_eq_ok.mp h
        obtain ⟨allocations, handed, paired⟩ := bind_eq_ok.mp later
        exact ⟨total, draws, allocations, rfl, drawn, handed, paired⟩
      · rintro ⟨same, draws, allocations, ⟨⟩, drawn, handed, paired⟩
        exact bind_eq_ok.mpr ⟨draws, drawn, bind_eq_ok.mpr ⟨allocations, handed, paired⟩⟩

/-- Whether a send of a row overreaches an account that may not go below zero, once the
sends before it were worked out. -/
def PlanOverreaches (ledger : Ledger) (overdrafts : Entries Text Bool) (start : Overlay)
    (sends : List Send) : Prop :=
  ∃ done send rest postings overlay account, sends = done ++ send :: rest ∧
    ledger.executeSends [] start done = .ok (postings, overlay) ∧
    ¬mayOverdraw overdrafts account = true ∧ ledger.Overreaches overlay send account

/-- A plan can be paid unless one of its sends overreaches. -/
theorem affords_or_overreaches (foreseen : overlay.Foresees ledger reached) {sends : List Send}
    (covers : Script.Covers overdrafts sends) {postings : List Posting} {last : Overlay}
    (planned : ledger.executeSends [] overlay sends = .ok (postings, last)) :
    Affords overdrafts reached (postings.map Posting.normalize) ∨
      ledger.PlanOverreaches overdrafts overlay sends := by
  induction sends generalizing overlay reached postings with
  | nil =>
      obtain ⟨rfl, -⟩ := executeSends_nil.mp planned
      exact Or.inl trivial
  | cons send rest ih =>
      obtain ⟨here, others, worked, later, rfl⟩ := executeSends_cons.mp planned
      obtain ⟨total, draws, allocations, asked, drawn, -, paired⟩ := sendPostings_eq_ok.mp worked
      obtain ⟨coversHere, coversLater⟩ := Script.covers_append.mp
        (show Script.Covers overdrafts ([send] ++ rest) from covers)
      rcases holds_or_overreaches foreseen coversHere asked drawn with holds | ⟨account, denied, beyond⟩
      · rcases ih (foreseen.postAll here) coversLater later with afforded | beyond
        · left
          rw [List.map_append]
          exact affords_append.mpr ⟨affords_pair holds paired, afforded⟩
        · right
          obtain ⟨done, last, behind, postings, reached, account, rfl, begun, denied, beyond⟩ := beyond
          exact ⟨send :: done, last, behind, here ++ postings, reached, account, rfl,
            executeSends_cons.mpr ⟨here, postings, worked, begun, rfl⟩, denied, beyond⟩
      · exact Or.inr ⟨[], send, rest, [], overlay, account, rfl, rfl, denied, beyond⟩

theorem proposed_affords_or_overreaches {script : Script} {proposal : Proposal}
    (proposed : ledger.propose script = .ok proposal) :
    Affords proposal.overdrafts ledger (proposal.postings.map Posting.normalize) ∨
      ledger.PlanOverreaches proposal.overdrafts [] script.sends := by
  obtain ⟨⟨postings, overlay⟩, planned, later⟩ := bind_eq_ok.mp proposed
  obtain ⟨overdrafts, granting, made⟩ := bind_eq_ok.mp later
  obtain rfl := Except.ok.inj made
  exact affords_or_overreaches (Overlay.Foresees.start ledger) (Script.covers_overdrafts granting)
    planned

/-- A send whose sources are different accounts does not overreach. -/
theorem not_overreaches_of_distinct {send : Send}
    (distinct : (Source.accounts [] send.sources).Nodup)
    (account : Text) : ¬ledger.Overreaches overlay send account := by
  rintro ⟨total, draws, -, drawn, twice, -⟩
  obtain ⟨left, waterfall, -⟩ := draw_eq_ok.mp drawn
  have apart := (distinct.sublist (drawFrom_accounts waterfall)).sublist
    ((List.filter_sublist (p := fun draw => draw.account = account)).map _)
  have here {draw : Draw} (mem : draw ∈ Draw.on account draws) : draw.account = account := by
    simpa using (List.mem_filter.mp mem).2
  change ((Draw.on account draws).map _).Nodup at apart
  match same : Draw.on account draws with
  | [] =>
      rw [same] at twice
      cases twice
  | [single] =>
      rw [same, List.length_singleton] at twice
      omega
  | first :: second :: rest =>
      rw [same] at apart here
      have one := here List.mem_cons_self
      have other := here (List.mem_cons_of_mem _ List.mem_cons_self)
      simp [one, other] at apart

/-- A plan is accepted if no send names an account twice. -/
theorem commit_of_distinct {ledger : Ledger} {script : Script} {proposal : Proposal}
    (proposed : ledger.propose script = .ok proposal)
    (distinct : ∀ send ∈ script.sends, (Source.accounts [] send.sources).Nodup) :
    ∃ tx after, ledger.commit proposal = .ok (tx, after) := by
  rcases proposed_affords_or_overreaches proposed with afforded | beyond
  · exact exists_commit_iff.mpr afforded
  · obtain ⟨done, send, rest, postings, overlay, account, listed, -, -, beyond⟩ := beyond
    have mem : send ∈ script.sends := by
      rw [listed]
      exact List.mem_append_right _ List.mem_cons_self
    exact absurd beyond (not_overreaches_of_distinct (distinct send mem) account)

/-- A plan that was worked out is accepted unless one of its sends draws on an account
without an overdraft more than once, and more than it holds altogether. -/
theorem commit_or_overreaches {ledger : Ledger} {script : Script} {proposal : Proposal}
    (proposed : ledger.propose script = .ok proposal) :
    (∃ tx after, ledger.commit proposal = .ok (tx, after)) ∨
      ledger.PlanOverreaches proposal.overdrafts [] script.sends := by
  rw [exists_commit_iff]
  exact proposed_affords_or_overreaches proposed

/-- A send that asks one account twice before it turns to the outside world. -/
def askingTwice : Send :=
  { monetary := { asset := "USD/2", quantity := .exactly 15 }
    sources := [{ account := "@a", cap := none, overdraft := .refused },
      { account := "@a", cap := none, overdraft := .refused },
      { account := "@world", cap := none, overdraft := .refused }]
    destinations := [{ receiver := .account "@b", portion := none }] }

/-- A ledger on which the account holds less than is sent. -/
def short : Ledger := (create (.text "main") none false).transfer ⟨"@world", "@a", "USD/2", 10⟩

/-- The plan of the send is made and refused. -/
theorem askingTwice_refused :
    ∃ proposal, short.propose (.ofSends [askingTwice]) = .ok proposal ∧
      ¬∃ tx after, short.commit proposal = .ok (tx, after) := by
  have planned : (short.propose (.ofSends [askingTwice])).isOk = true := by decide +kernel
  have refused : (short.propose (.ofSends [askingTwice]) >>= short.commit).isOk = false := by
    decide +kernel
  cases proposed : short.propose (.ofSends [askingTwice]) with
  | error fault =>
      rw [proposed] at planned
      cases planned
  | ok proposal =>
      refine ⟨proposal, rfl, ?_⟩
      rintro ⟨tx, after, made⟩
      rw [proposed] at refused
      change (short.commit proposal).isOk = false at refused
      rw [made] at refused
      cases refused

/-- The send overreaches: it draws on its account twice, together more than it holds. -/
theorem askingTwice_overreaches :
    ∃ proposal, short.propose (.ofSends [askingTwice]) = .ok proposal ∧
      short.PlanOverreaches proposal.overdrafts [] [askingTwice] := by
  obtain ⟨proposal, proposed, refused⟩ := askingTwice_refused
  exact ⟨proposal, proposed, (commit_or_overreaches proposed).resolve_left refused⟩

/-- Not every plan that was worked out is accepted. -/
theorem plan_refused :
    ¬∀ (ledger : Ledger) (script : Script) (proposal : Proposal),
      ledger.propose script = .ok proposal →
        ∃ tx after, ledger.commit proposal = .ok (tx, after) := by
  intro accepted
  obtain ⟨proposal, proposed, refused⟩ := askingTwice_refused
  exact refused (accepted short _ proposal proposed)

end Ledger

end DoubleEntry
