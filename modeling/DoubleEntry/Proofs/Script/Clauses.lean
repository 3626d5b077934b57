import DoubleEntry.Proofs.Except
import DoubleEntry.Proofs.Script.Fragments

/-!
# Reading the clauses of a send

The sources and the destinations of a send are read off their clauses in order. A source
that grants no overdraft is still read as one that does if its account, or the asset of
its cap, holds the granting word.
-/

namespace DoubleEntry

open Text (IsGap Trail Parted)

/-! ## The granting word -/

namespace Source

/-- Whether the granting word stands in the account of a source or in the asset of its
cap. -/
def mentionsGrant (source : Source) : Bool :=
  Text.occursIn grantWord source.account ||
    source.cap.any fun cap => Text.occursIn grantWord cap.asset

/-- What is read where a source is written. -/
def asRead (source : Source) : Source :=
  if source.overdraft = .refused ∧ source.mentionsGrant = true then
    { source with overdraft := .granted false none }
  else source

theorem asRead_eq_self_iff {source : Source} :
    source.asRead = source ↔
      ¬(source.overdraft = .refused ∧ source.mentionsGrant = true) := by
  rw [asRead]
  constructor
  · intro same both
    rw [if_pos both] at same
    have granted := congrArg Source.overdraft same
    rw [both.1] at granted
    cases granted
  · exact fun neither => if_neg neither

theorem asRead_eq (source : Source) :
    source.asRead = { source with
      overdraft :=
        if source.overdraft.isGranted = true ∨ source.mentionsGrant = true then
          .granted source.overdraft.isUnbounded source.overdraft.limit?
        else .refused } := by
  obtain ⟨account, cap, overdraft⟩ := source
  rw [asRead]
  cases overdraft with
  | refused =>
      split
      · next both => rw [if_pos (Or.inr both.2)]; rfl
      · next neither => rw [if_neg fun either => neither ⟨rfl, either.resolve_left Bool.false_ne_true⟩]
  | granted unbounded limit =>
      have given : Overdraft.granted unbounded limit ≠ .refused := nofun
      rw [if_neg fun both => given both.1]
      exact (congrArg (Source.mk account cap) (if_pos (Or.inl rfl))).symm

theorem grantWord_isToken : Text.IsToken grantWord := ⟨by decide, by decide⟩

theorem not_occursIn {t : Text} (h : (.char 'a' : CodePoint) ∉ t) :
    Text.occursIn grantWord t ≠ true := by
  intro found
  exact h ((Text.occursIn_iff.mp found).subset (by decide))

theorem occursIn_capTokens (cap : Option Monetary) :
    (∃ token ∈ capTokens cap, Text.occursIn grantWord token = true) ↔
      (cap.any fun cap => Text.occursIn grantWord cap.asset) = true := by
  cases cap with
  | none => simp [capTokens]
  | some cap =>
      have opened : Text.occursIn grantWord (("[" : Text) ++ cap.asset) = true ↔
          Text.occursIn grantWord cap.asset = true := by
        rw [Text.occursIn_iff, Text.occursIn_iff]
        refine List.infix_cons_iff.trans (or_iff_right fun front => ?_)
        obtain ⟨rest, same⟩ := front
        have heads : some (CodePoint.char 'a') = some (CodePoint.char '[') :=
          congrArg List.head? same
        exact absurd heads (by decide)
      have closed : Text.occursIn grantWord (cap.quantity.text ++ ("]" : Text)) ≠ true := by
        refine not_occursIn fun mem => ?_
        rcases List.mem_append.mp mem with amount | bracket
        · cases given : cap.quantity with
          | everything =>
              rw [given] at amount
              exact absurd amount (by decide)
          | exactly n =>
              rw [given] at amount
              exact Decimal.notMem_ofNat (by decide +kernel) n amount
        · exact absurd bracket (by decide)
      have first : Text.occursIn grantWord "max" ≠ true := by decide
      have last : Text.occursIn grantWord "from" ≠ true := by decide
      rw [capTokens, Monetary.tokens, List.cons_append, List.cons_append, List.nil_append,
        List.exists_mem_cons_iff, List.exists_mem_cons_iff, List.exists_mem_cons_iff,
        List.exists_mem_cons_iff, opened, or_iff_right first]
      constructor
      · rintro (named | found | found | ⟨token, mem, -⟩)
        · exact named
        · exact absurd found closed
        · exact absurd found last
        · cases mem
      · exact Or.inl

theorem occursIn_grantTokens (overdraft : Overdraft) :
    (∃ token ∈ grantTokens overdraft, Text.occursIn grantWord token = true) ↔
      overdraft.isGranted = true := by
  cases overdraft with
  | refused => simp [grantTokens, Overdraft.isGranted]
  | granted unbounded limit =>
      refine iff_of_true ⟨grantWord, List.mem_cons_self, by decide⟩ rfl

/-- Where a source is written the granting word stands if the source grants an overdraft or
mentions the word. -/
theorem occursIn_spelled {source : Source} {w : Text} (spelled : source.Spelled w) :
    Text.occursIn grantWord w = true ↔
      source.overdraft.isGranted = true ∨ source.mentionsGrant = true := by
  rw [spelled.laidOut.occursIn grantWord_isToken, tokens]
  simp only [List.mem_append, or_and_right, exists_or]
  rw [List.exists_mem_cons_iff, occursIn_capTokens, occursIn_grantTokens, mentionsGrant,
    Bool.or_eq_true]
  constructor <;> (rintro (h | h | h) <;> simp [h])

/-! ## Sources -/

theorem Spelled.head? {source : Source} {w : Text} (spelled : source.Spelled w)
    (plain : source.IsPlain) (after : Text) :
    (w ++ after).head? = some (.char 'm') ∨ (w ++ after).head? = some (.char '@') := by
  obtain ⟨account, cap, overdraft⟩ := source
  obtain ⟨front, later, rfl, capped, -⟩ := spelled
  cases capped with
  | none =>
      rw [List.nil_append, List.append_assoc]
      exact Or.inr (plain.account.head? _)
  | some => exact Or.inl rfl

theorem Spelled.ends {source : Source} {w : Text} (spelled : source.Spelled w)
    (plain : source.IsPlain) (after : Text) : Reader.Ends isBlank (w ++ after) := by
  intro c first
  rcases spelled.head? plain after with letter | letter
  all_goals
    rw [letter] at first
    obtain rfl := Option.some.inj first
    decide

theorem Spelled.nonempty {source : Source} {w : Text} (spelled : source.Spelled w)
    (plain : source.IsPlain) : w ≠ [] := by
  rintro rfl
  rcases spelled.head? plain [] with h | h <;> cases h

/-- A source is read off its text, in front of anything but a grant or a limit. -/
theorem Spelled.read {source : Source} {w : Text} (spelled : source.Spelled w)
    (plain : source.IsPlain) :
    ∃ parts, ofParts w parts = .ok source.asRead ∧ parts.cap.isSome = source.cap.isSome ∧
      ∀ after, Behind after → item (w ++ after) = some (parts, after) := by
  have mentioned := occursIn_spelled spelled
  obtain ⟨front, later, rfl, capped, granted⟩ := spelled
  obtain ⟨inner, capRead, same, readCap⟩ := cap_read capped plain.cap
  obtain ⟨parsed, bound, limitRead, readGrant⟩ := grant_read granted plain.limit
  refine ⟨⟨inner, source.account, parsed⟩, ?_, same, fun after behind => ?_⟩
  · refine bind_eq_ok.mpr ⟨source.cap, capRead, bind_eq_ok.mpr
      ⟨source.overdraft.limit?, limitRead, congrArg Except.ok ?_⟩⟩
    rw [asRead_eq]
    dsimp only
    rw [bound]
    exact congrArg (Source.mk source.account source.cap) (if_congr mentioned rfl rfl)
  · rw [List.append_assoc, List.append_assoc, item, Reader.bind_some (readCap plain.account _),
      Reader.bind_some (plain.account.read (granted.parted behind.parted)),
      Reader.bind_some (readGrant after behind)]
    rfl

theorem Spelled.read_bare {source : Source} {w : Text} (spelled : source.Spelled w)
    (plain : source.IsPlain) (uncapped : source.cap = none) :
    ∃ parsed, ∀ after, Behind after → (do
      let _ ← Script.accountRef
      Reader.optional grant : Reader _) (w ++ after) = some (parsed, after) := by
  obtain ⟨front, later, rfl, capped, granted⟩ := spelled
  obtain ⟨parsed, -, -, readGrant⟩ := grant_read granted plain.limit
  rw [uncapped] at capped
  cases capped
  refine ⟨parsed, fun after behind => ?_⟩
  rw [List.nil_append, List.append_assoc,
    Reader.bind_some (plain.account.read (granted.parted behind.parted))]
  exact readGrant after behind

/-- Behind a gap no grant and no limit comes where another source or nothing comes. -/
theorem behind_gap {gap after : Text} (apart : IsGap gap) (solid : Reader.Ends isBlank after)
    (ungranted : after.head? ≠ some (.char 'a')) (unlimited : after.head? ≠ some (.char 'u')) :
    Behind (gap ++ after) := by
  have passed := Text.dropWhile_append apart.blank solid
  refine ⟨apart.parted after, ?_, ?_⟩
  · rwa [passed]
  · rwa [passed]

theorem behind_nil : Behind [] := ⟨Text.parted_nil, nofun, nofun⟩

/-- In a block sources stand in a row. -/
theorem row_read {sources : List Source} (plain : ∀ source ∈ sources, source.IsPlain) {t gap : Text}
    (trail : Trail (sources.flatMap tokens) t) (apart : IsGap gap) :
    Behind (t ++ gap) ∧ ∃ found, Search.Row item found (t ++ gap) ∧
      (found.mapM fun one => ofParts one.1 one.2) = .ok (sources.map asRead) := by
  induction sources generalizing t with
  | nil =>
      cases trail
      refine ⟨?_, [], Search.Row.done apart.blank, rfl⟩
      rw [List.nil_append, ← List.append_nil gap]
      exact behind_gap apart (Reader.ends_nil _) (by simp) (by simp)
  | cons source rest ih =>
      obtain ⟨here, others⟩ := List.forall_mem_cons.mp plain
      rw [List.flatMap_cons] at trail
      obtain ⟨first, w, later, rfl, head, spelled, trail⟩ := trail_tokens trail
      obtain ⟨behind, found, row, made⟩ := ih others trail
      obtain ⟨parts, known, -, read⟩ := spelled.read here
      have split : first ++ (w ++ later) ++ gap = first ++ (w ++ (later ++ gap)) := by simp
      rw [split]
      constructor
      · have letters : (w ++ (later ++ gap)).head? ≠ some (.char 'a') ∧
            (w ++ (later ++ gap)).head? ≠ some (.char 'u') := by
          rcases spelled.head? here (later ++ gap) with letter | letter
          all_goals
            rw [letter]
            exact ⟨by decide, by decide⟩
        exact behind_gap head (spelled.ends here _) letters.1 letters.2
      · refine ⟨(w, parts) :: found, ?_, ?_⟩
        · rw [← List.append_assoc]
          exact Search.Row.read head.blank (spelled.nonempty here) (read _ behind) row
        · rw [List.mapM_cons]
          exact bind_eq_ok.mpr ⟨source.asRead, known, bind_eq_ok.mpr ⟨_, made, rfl⟩⟩

theorem item_blank (c : CodePoint) (rest : Text) (blank : isBlank c = true) :
    item (c :: rest) = none := by
  have other (mark : CodePoint) (solid : isBlank mark = false) :
      (c :: rest).head? ≠ some mark := by
    rw [List.head?_cons]
    exact fun same => ne_of_isBlank blank solid (Option.some.inj same)
  have uncapped : Reader.optional capClause (c :: rest) = some (none, c :: rest) :=
    Reader.optional_none (Reader.bind_none (Reader.word_none (other 'm' (by decide)) _) _)
  rw [item, Reader.bind_some uncapped]
  exact Reader.bind_none (Script.accountRef_none (other '@' (by decide)) (other '$' (by decide))) _

/-- The right side of a source clause. -/
def rightSide : Reader Text :=
  Script.braceBlock <|> Prod.snd <$> Reader.withText (do
    let _ ← Script.accountRef
    Reader.optional grant)

theorem clause_eq : clause = (do Script.clauseHead "source"; rightSide) := rfl

/-- What stands on the right side of a source clause is found there, and says which
sources there are. -/
theorem Written.read {sources : List Source} {tokens : List Text} {t : Text}
    (written : Written sources tokens) (plain : ∀ source ∈ sources, source.IsPlain)
    (trail : Trail tokens t) :
    ∃ gap block, t = gap ++ block ∧ IsGap gap ∧ ofBlock block = .ok (sources.map asRead) ∧
      (∀ after, Reader.Ends isBlank (block ++ after)) ∧
      ∀ after, Behind after → rightSide (block ++ after) = some (block, after) := by
  cases written with
  | block =>
      have inner := inner_flatMap plain
      obtain ⟨gap, inside, last, rfl, apart, items, final⟩ := Script.trail_block trail
      obtain ⟨-, found, row, made⟩ := row_read plain items final
      refine ⟨gap, _, rfl, apart, ?_, Script.block_ends _, fun after behind => ?_⟩
      · have listed := Search.map_all item (inside ++ last)
        rw [Search.hits_row item_blank row] at listed
        rw [ofBlock, Script.strip_block, Script.blockBody_block]
        refine (if_pos rfl).trans ?_
        rw [← made, ← listed, List.mapM_map]
        rfl
      · exact Reader.or_some (Script.braceBlock_read (Script.block_free items final inner) after) _
  | @bare source uncapped =>
      have here := plain source List.mem_cons_self
      rw [← List.append_nil source.tokens] at trail
      obtain ⟨gap, w, behind, rfl, apart, spelled, ending⟩ := trail_tokens trail
      cases ending
      rw [List.append_nil]
      obtain ⟨parts, known, same, read⟩ := spelled.read here
      obtain ⟨parsed, bare⟩ := spelled.read_bare here uncapped
      have stripped : w.strip = w :=
        spelled.laidOut.strip_eq_self fun token mem => (here.inner token mem).isToken
      have unbraced (after : Text) : (w ++ after).head? ≠ some (.char '{') := by
        rcases spelled.head? here after with letter | letter
        all_goals
          rw [letter]
          decide
      refine ⟨gap, w, rfl, apart, ?_, spelled.ends here, fun after behind => ?_⟩
      · have whole := Reader.withText_append (read [] behind_nil)
        have first := unbraced []
        rw [List.append_nil] at whole first
        rw [ofBlock, stripped]
        refine (if_neg first).trans ?_
        rw [whole]
        dsimp only
        rw [same, uncapped, known]
        rfl
      · rw [rightSide, Reader.or_none (Script.braceBlock_none (unbraced after))]
        exact Reader.map_some (Reader.withText_append (bare after behind)) Prod.snd

end Source

/-! ## Destinations -/

namespace Destination

/-- The word that may stand behind a portion. -/
def toClause : Reader Unit := do
  Reader.word "to"
  Reader.gap

theorem portionClause_eq : portionClause = (do
    let portion ← Script.portion
    Reader.gap
    let _ ← Reader.optional toClause
    return portion) := rfl

section Receiver

variable {receiver : Receiver}
  (plain : ∀ address, receiver = .account address → Script.IsAddress address)
include plain

theorem receiver_head? (after : Text) :
    (receiverToken receiver ++ after).head? = some (.char '@') ∨
      (receiverToken receiver ++ after).head? = some (.char 'k') := by
  cases receiver with
  | account address => exact Or.inl ((plain address rfl).head? after)
  | kept => exact Or.inr rfl

theorem receiver_ends {test : CodePoint → Bool} (sigil : test '@' = false) (k : test 'k' = false)
    (after : Text) : Reader.Ends test (receiverToken receiver ++ after) := by
  intro c first
  rcases receiver_head? plain after with letter | letter
  all_goals
    rw [letter] at first
    obtain rfl := Option.some.inj first
    assumption

/-- A receiver is read up to what cannot belong to its address, if it has one. -/
theorem receiver_read {after : Text}
    (ends : ∀ address, receiver = .account address → Reader.Ends Script.isAddressChar after) :
    receiverRef (receiverToken receiver ++ after) = some (receiver, after) := by
  cases receiver with
  | account address =>
      have read : Script.accountRef (address ++ after) = some (address, after) :=
        Reader.or_some ((plain address rfl).address_read (ends address rfl)) _
      exact Reader.or_some (Reader.map_some read _) _
  | kept =>
      have unlike : Script.accountRef (keptWord ++ after) = none := by
        have letter : (keptWord ++ after).head? = some (.char 'k') := rfl
        refine Script.accountRef_none ?_ ?_
        all_goals
          rw [letter]
          decide
      have word : (do Reader.word keptWord; return Receiver.kept : Reader Receiver)
          (keptWord ++ after) = some (.kept, after) := by
        rw [Reader.bind_some (Reader.word_append _ _)]
        rfl
      exact (Reader.or_none (Reader.map_none unlike _) _).trans word

end Receiver

/-- A portion is read in front of its receiver. -/
theorem portionClause_read {portion gap after : Text} (spelled : Script.IsPortion portion)
    (apart : IsGap gap) (solid : Reader.Ends isBlank after)
    (other : after.head? ≠ some (.char 't')) :
    portionClause (portion ++ (gap ++ after)) = some (portion, after) := by
  have direct : Reader.optional toClause after = some (none, after) :=
    Reader.optional_none (Reader.bind_none (Reader.word_none other _) _)
  rw [portionClause_eq, Reader.bind_some (spelled.read (apart.parted _)),
    Reader.bind_some (apart.read solid), Reader.bind_some direct]
  rfl

/-- A portion is read in front of the word that may stand before its receiver. -/
theorem portionClause_read_to {portion gap last after : Text} (spelled : Script.IsPortion portion)
    (apart : IsGap gap) (final : IsGap last) (solid : Reader.Ends isBlank after) :
    portionClause (portion ++ (gap ++ (("to" : Text) ++ (last ++ after)))) =
      some (portion, after) := by
  have word : toClause (("to" : Text) ++ (last ++ after)) = some ((), after) := by
    rw [toClause, Reader.bind_some (Reader.word_append _ _)]
    exact final.read solid
  rw [portionClause_eq, Reader.bind_some (spelled.read (apart.parted _)),
    Reader.bind_some (apart.read (clauseWords_ends "to" (by decide) _)),
    Reader.bind_some (Reader.optional_some word)]
  rfl

section Item

variable {portion gap last after : Text} {receiver : Receiver}
  (plain : ∀ address, receiver = .account address → Script.IsAddress address)
  (ends : ∀ address, receiver = .account address → Reader.Ends Script.isAddressChar after)
include plain ends

theorem item_read {share : Option Text} {front : Text}
    (clause : Reader.optional portionClause (front ++ (receiverToken receiver ++ after)) =
      some (share, receiverToken receiver ++ after)) :
    item (front ++ (receiverToken receiver ++ after)) = some (⟨receiver, share⟩, after) := by
  rw [item, Reader.bind_some clause, Reader.bind_some (receiver_read plain ends)]
  rfl

/-- A receiver on its own is read as a destination without a portion. -/
theorem item_whole : item (receiverToken receiver ++ after) = some (⟨receiver, none⟩, after) := by
  have clause : portionClause (receiverToken receiver ++ after) = none := by
    refine Reader.bind_none (Script.portion_none ?_) _
    exact receiver_ends plain (by decide +kernel) (by decide +kernel) after
  exact @item_read after receiver plain ends none [] (Reader.optional_none clause)

variable (spelled : Script.IsPortion portion) (apart : IsGap gap)
include spelled apart

/-- A portion and a receiver are read as a destination. -/
theorem item_share : item (portion ++ (gap ++ (receiverToken receiver ++ after))) =
    some (⟨receiver, some portion⟩, after) := by
  have other : (receiverToken receiver ++ after).head? ≠ some (.char 't') := by
    rcases receiver_head? plain after with letter | letter
    all_goals
      rw [letter]
      decide
  have clause := portionClause_read spelled apart
    (receiver_ends plain (by decide) (by decide) after) other
  rw [← List.append_assoc] at clause ⊢
  exact item_read plain ends (Reader.optional_some clause)

/-- The word between a portion and its receiver is passed over. -/
theorem item_shareTo (final : IsGap last) :
    item (portion ++ (gap ++ (("to" : Text) ++ (last ++ (receiverToken receiver ++ after))))) =
      some (⟨receiver, some portion⟩, after) := by
  have clause := portionClause_read_to spelled apart final
    (receiver_ends plain (by decide) (by decide) after)
  simp only [← List.append_assoc] at clause ⊢
  rw [List.append_assoc] at clause ⊢
  exact item_read plain ends (Reader.optional_some clause)

end Item

/-- A destination is read off its text, up to the next blank. -/
theorem ItemWritten.read {destination : Destination} {tokens rest : List Text} {t : Text}
    (written : ItemWritten destination tokens) (plain : destination.IsPlain)
    (trail : Trail (tokens ++ rest) t) :
    ∃ gap w behind, t = gap ++ (w ++ behind) ∧ IsGap gap ∧ w ≠ [] ∧ Trail rest behind ∧
      ∀ after, Parted after → item (w ++ after) = some (destination, after) := by
  have ends {after : Text} (parted : Parted after) (address : Text)
      (_ : destination.receiver = .account address) : Reader.Ends Script.isAddressChar after :=
    parted.ends fun _ => Script.isAddressChar_of_isBlank
  cases written with
  | whole receiver =>
      obtain ⟨gap, behind, rfl, apart, trail⟩ := Text.trail_cons.mp trail
      refine ⟨gap, receiverToken receiver, behind, rfl, apart, ?_, trail, fun after parted => ?_⟩
      · exact (receiver_inner plain.account).nonempty
      · exact item_whole plain.account (ends parted)
  | share portion receiver =>
      have spelled := plain.portion portion rfl
      obtain ⟨gap, inside, rfl, apart, trail⟩ := Text.trail_cons.mp trail
      obtain ⟨between, behind, rfl, middle, trail⟩ := Text.trail_cons.mp trail
      refine ⟨gap, portion ++ (between ++ receiverToken receiver), behind, by simp, apart, ?_,
        trail, fun after parted => ?_⟩
      · simp [spelled.inner.nonempty]
      · simp only [List.append_assoc]
        exact item_share plain.account (ends parted) spelled middle
  | shareTo portion receiver =>
      have spelled := plain.portion portion rfl
      obtain ⟨gap, inside, rfl, apart, trail⟩ := Text.trail_cons.mp trail
      obtain ⟨between, inside, rfl, middle, trail⟩ := Text.trail_cons.mp trail
      obtain ⟨last, behind, rfl, final, trail⟩ := Text.trail_cons.mp trail
      refine ⟨gap, portion ++ (between ++ (("to" : Text) ++ (last ++ receiverToken receiver))),
        behind, by simp, apart, ?_, trail, fun after parted => ?_⟩
      · simp [spelled.inner.nonempty]
      · simp only [List.append_assoc]
        exact item_shareTo plain.account (ends parted) spelled middle final

theorem item_blank (c : CodePoint) (rest : Text) (blank : isBlank c = true) :
    item (c :: rest) = none := by
  have other (mark : CodePoint) (solid : isBlank mark = false) :
      (c :: rest).head? ≠ some mark := by
    rw [List.head?_cons]
    exact fun same => ne_of_isBlank blank solid (Option.some.inj same)
  have unlike : Script.beginsPortion c = false := Script.beginsPortion_of_isBlank blank
  have undivided : portionClause (c :: rest) = none :=
    Reader.bind_none (Script.portion_none (Reader.ends_cons unlike rest)) _
  have unnamed : Script.accountRef (c :: rest) = none :=
    Script.accountRef_none (other '@' (by decide)) (other '$' (by decide))
  rw [item, Reader.bind_some (Reader.optional_none undivided)]
  refine Reader.bind_none ((Reader.or_none (Reader.map_none unnamed _) _).trans ?_) _
  exact Reader.bind_none (Reader.word_none (other 'k' (by decide)) _) _

/-- In a block destinations stand in a row. -/
theorem ItemsWritten.read {destinations : List Destination} {tokens : List Text}
    (written : ItemsWritten destinations tokens)
    (plain : ∀ destination ∈ destinations, destination.IsPlain) {t gap : Text}
    (trail : Trail tokens t) (apart : IsGap gap) :
    Parted (t ++ gap) ∧ ∃ found, Search.Row item found (t ++ gap) ∧
      found.map Prod.snd = destinations := by
  induction written generalizing t with
  | nil =>
      cases trail
      refine ⟨?_, [], Search.Row.done apart.blank, rfl⟩
      rw [List.nil_append, ← List.append_nil gap]
      exact apart.parted []
  | @cons destination rest here later first others ih =>
      obtain ⟨head, tail⟩ := List.forall_mem_cons.mp plain
      obtain ⟨opening, w, behind, rfl, before, nonempty, trail, read⟩ := first.read head trail
      obtain ⟨parted, found, row, same⟩ := ih tail trail
      have split : opening ++ (w ++ behind) ++ gap = opening ++ w ++ (behind ++ gap) := by simp
      refine ⟨?_, (w, destination) :: found, ?_, ?_⟩
      · rw [List.append_assoc]
        exact before.parted _
      · rw [split]
        exact Search.Row.read before.blank nonempty (read _ parted) row
      · rw [List.map_cons, same]

/-- The right side of a destination clause. -/
def rightSide : Reader Text := Script.braceBlock <|> Script.accountRef

theorem clause_eq : clause = (do Script.clauseHead "destination"; rightSide) := rfl

/-- The destinations of a block are those that stand in a row in it. -/
theorem ofBlock_block {inner : Text} {found : List (Text × Destination)}
    (row : Search.Row item found inner) :
    ofBlock (Text.enclosed '{' '}' inner) = found.map Prod.snd := by
  have listed := Search.map_all item inner
  rw [Search.hits_row item_blank row] at listed
  rw [ofBlock, Script.strip_block, Script.blockBody_block]
  refine (if_pos rfl).trans ?_
  rw [← listed, List.map_map]
  rfl

section Bare

variable {address : Text} (spelled : Script.IsAddress address)
include spelled

theorem address_unbraced (after : Text) : (address ++ after).head? ≠ some (.char '{') := by
  rw [spelled.head?]
  decide

/-- An address on its own is the only destination. -/
theorem ofBlock_address : ofBlock address = [⟨.account address, none⟩] := by
  have stripped : address.strip = address := by
    have laid : Text.LaidOut [address] address := ⟨[], (List.append_nil address).symm, Trail.nil⟩
    exact laid.strip_eq_self (List.forall_mem_singleton.mpr spelled.inner.isToken)
  have first := address_unbraced spelled []
  rw [List.append_nil] at first
  rw [ofBlock, stripped]
  exact if_neg first

theorem rightSide_address {after : Text} (ends : Reader.Ends Script.isAddressChar after) :
    rightSide (address ++ after) = some (address, after) := by
  rw [rightSide, Reader.or_none (Script.braceBlock_none (address_unbraced spelled after))]
  exact Reader.or_some (spelled.address_read ends) _

end Bare

/-- What stands on the right side of a destination clause is found there, and says which
destinations there are. -/
theorem Written.read {destinations : List Destination} {tokens : List Text} {t : Text}
    (written : Written destinations tokens)
    (plain : ∀ destination ∈ destinations, destination.IsPlain) (trail : Trail tokens t) :
    ∃ gap block, t = gap ++ block ∧ IsGap gap ∧ ofBlock block = destinations ∧
      (∀ after, Reader.Ends isBlank (block ++ after)) ∧
      ∀ after, Parted after → rightSide (block ++ after) = some (block, after) := by
  cases written with
  | @block _ items written =>
      obtain ⟨gap, inside, last, rfl, apart, items, final⟩ := Script.trail_block trail
      obtain ⟨-, found, row, same⟩ := written.read plain items final
      refine ⟨gap, _, rfl, apart, (ofBlock_block row).trans same, Script.block_ends _,
        fun after parted => ?_⟩
      have free := Script.block_free items final (written.inner plain)
      exact Reader.or_some (Script.braceBlock_read free after) _
  | bare address =>
      have spelled := (plain _ List.mem_cons_self).account address rfl
      obtain ⟨gap, behind, rfl, apart, ending⟩ := Text.trail_cons.mp trail
      cases ending
      rw [List.append_nil]
      exact ⟨gap, address, rfl, apart, ofBlock_address spelled, spelled.inner.isToken.ends,
        fun after parted =>
          rightSide_address spelled (parted.ends fun _ => Script.isAddressChar_of_isBlank)⟩

end Destination

end DoubleEntry
