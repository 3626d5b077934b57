import DoubleEntry.Proofs.Script.Payment
import DoubleEntry.Script.Preview

/-!
# Shares in a preview

In a block of destinations a preview finds the accounts. It sees a portion in front of one
only if the word between them is written.
-/

namespace DoubleEntry

open Text (IsGap IsRow IsToken Parted)

/-- The destination that a preview takes an entry for: without the word between, a portion is
passed over. -/
def Entry.seen : Entry → Destination
  | .whole receiver => ⟨receiver, none⟩
  | .share _ receiver => ⟨receiver, none⟩
  | .shareTo portion receiver => ⟨receiver, some portion⟩

/-- The account of a destination with its portion, unless the share is kept. -/
def Destination.named (destination : Destination) : List (Option Text × Text) :=
  match destination.receiver with
  | .account address => [(destination.portion, address)]
  | .kept => []

namespace Preview

/-- A portion with the word behind it. -/
def shareTo : Reader Text := do
  let portion ← Script.portion
  Reader.gap
  Reader.word "to"
  Reader.gap
  return portion

theorem splitItem_eq : splitItem = (do
    let portion ← Reader.optional shareTo
    let destination ← Script.address
    return (portion, destination)) := rfl

/-! ## Where accounts are found -/

section Found

variable {address after : Text} (spelled : Script.IsAddress address)
  (ends : Reader.Ends Script.isAddressChar after)
include spelled ends

theorem splitItem_account : splitItem (address ++ after) = some ((none, address), after) := by
  have undivided : shareTo (address ++ after) = none := by
    refine Reader.bind_none (Script.portion_none fun c first => ?_) _
    rw [spelled.head?] at first
    obtain rfl := Option.some.inj first
    decide +kernel
  rw [splitItem_eq, Reader.bind_some (Reader.optional_none undivided),
    Reader.bind_some (spelled.address_read ends)]
  rfl

theorem splitItem_shareTo {portion gap last : Text} (share : Script.IsPortion portion)
    (apart : IsGap gap) (final : IsGap last) :
    splitItem ((portion ++ (gap ++ (("to" : Text) ++ (last ++ address)))) ++ after) =
      some ((some portion, address), after) := by
  have divided : shareTo (portion ++ (gap ++ (("to" : Text) ++ (last ++ (address ++ after))))) =
      some (portion, address ++ after) := by
    rw [shareTo, Reader.bind_some (share.read (apart.parted _)),
      Reader.bind_some (apart.read (clauseWords_ends "to" (by decide) _)),
      Reader.bind_some (Reader.word_append _ _),
      Reader.bind_some (final.read (spelled.inner.isToken.ends after))]
    rfl
  simp only [List.append_assoc]
  rw [splitItem_eq, Reader.bind_some (Reader.optional_some divided),
    Reader.bind_some (spelled.address_read ends)]
  rfl

end Found

/-! ## Where nothing is found -/

/-- What comes behind the first word. -/
def behindWord (t : Text) : Text := (t.dropWhile fun c => !isBlank c).dropWhile isBlank

theorem behindWord_append {w gap after : Text} (solid : ∀ c ∈ w, isBlank c = false)
    (apart : IsGap gap) (ends : Reader.Ends isBlank after) :
    behindWord (w ++ (gap ++ after)) = after := by
  have word : ∀ c ∈ w, (!isBlank c) = true := fun c mem => by simp [solid c mem]
  have blank : (gap ++ after).dropWhile (fun c => !isBlank c) = gap ++ after := by
    obtain ⟨c, rest, rfl⟩ := List.exists_cons_of_ne_nil apart.nonempty
    exact List.dropWhile_cons_of_neg (by simp [apart.blank c List.mem_cons_self])
  rw [behindWord, List.dropWhile_append_of_pos word, blank,
    Text.dropWhile_append apart.blank ends]

/-- Whether the word that may stand behind a portion comes next, and then an account. -/
def Offers (t : Text) : Prop :=
  ∃ gap rest, IsGap gap ∧ t = ("to" : Text) ++ (gap ++ .char '@' :: rest)

theorem portion_takes : Script.portion.Takes (isBlank · = false) := by
  have digits : (Reader.many1 isDecimalDigit).Takes (isBlank · = false) :=
    Reader.takes_many1 fun c => isBlank_of_isDecimalDigit
  have number : (Reader.many1 fun c => isDecimalDigit c || c = '.').Takes (isBlank · = false) := by
    refine Reader.takes_many1 fun c letter => ?_
    rcases Bool.or_eq_true_iff.mp letter with digit | point
    · exact isBlank_of_isDecimalDigit digit
    · obtain rfl := of_decide_eq_true point
      decide
  have mark {sign : CodePoint} (solid : isBlank sign = false) :
      (Reader.char (· = sign)).Takes (isBlank · = false) :=
    Reader.takes_char fun c same => of_decide_eq_true same ▸ solid
  have percentage : Script.percentage.Takes (isBlank · = false) :=
    number.bind fun _ => (mark (by decide)).bind fun _ => Reader.takes_pure _
  have fraction : Script.fraction.Takes (isBlank · = false) :=
    digits.bind fun _ => (mark (by decide)).bind fun _ => digits.bind fun _ => Reader.takes_pure _
  exact percentage.or (fraction.or ((Reader.takes_word (by decide)).bind fun _ =>
    Reader.takes_pure _))

theorem splitItem_none {t : Text} (unlike : Reader.Ends Script.beginsPortion t)
    (unnamed : t.head? ≠ some (.char '@')) : splitItem t = none := by
  have undivided : shareTo t = none := Reader.bind_none (Script.portion_none unlike) _
  rw [splitItem_eq, Reader.bind_some (Reader.optional_none undivided)]
  refine Reader.bind_none (Reader.bind_none (Reader.char_none fun c first => ?_) _) _
  refine decide_eq_false ?_
  rintro rfl
  exact unnamed first

/-- At a word with nothing on offer behind it nothing is found. -/
theorem splitItem_word_none {w gap t : Text} (some_ : w ≠ [])
    (solid : ∀ c ∈ w, isBlank c = false) (unnamed : (.char '@' : CodePoint) ∉ w)
    (apart : IsGap gap) (ends : Reader.Ends isBlank t) (refused : ¬Offers t) :
    splitItem (w ++ (gap ++ t)) = none := by
  have sigil {t : Text} {value rest : Text} (h : Script.address t = some (value, rest)) :
      t.head? = some (.char '@') := by
    obtain ⟨c, later, begun, -⟩ := Reader.bind_eq_some.mp h
    obtain ⟨rfl, same⟩ := Reader.char_eq_some begun
    rw [List.head?_cons, of_decide_eq_true same]
  cases read : splitItem (w ++ (gap ++ t)) with
  | none => rfl
  | some result =>
      obtain ⟨portion, mid, optional, later⟩ := Reader.bind_eq_some.mp read
      obtain ⟨address, rest, named, -⟩ := Reader.bind_eq_some.mp later
      cases portion with
      | none =>
          obtain rfl := Reader.optional_eq_none optional
          obtain ⟨c, later, rfl⟩ := List.exists_cons_of_ne_nil some_
          obtain rfl := Option.some.inj (sigil named)
          exact absurd List.mem_cons_self unnamed
      | some portion =>
          obtain ⟨share, behind, divided, next⟩ :=
            Reader.bind_eq_some.mp (Reader.optional_eq_some optional)
          obtain ⟨⟨⟩, bridge, first, next⟩ := Reader.bind_eq_some.mp next
          obtain ⟨⟨⟩, second, word, next⟩ := Reader.bind_eq_some.mp next
          obtain ⟨⟨⟩, left, final, made⟩ := Reader.bind_eq_some.mp next
          obtain rfl := (Prod.mk.inj (Option.some.inj made)).2
          obtain ⟨front, split, letters⟩ := portion_takes _ _ _ divided
          obtain ⟨before, rfl, isGap⟩ := Text.gap_eq_some first
          obtain ⟨last, rfl, isLast⟩ := Text.gap_eq_some final
          obtain rfl := Reader.word_eq_some word
          obtain ⟨name, rfl⟩ := List.head?_eq_some_iff.mp (sigil named)
          have same := congrArg behindWord split
          rw [behindWord_append solid apart ends, behindWord_append letters isGap
            (clauseWords_ends "to" (by decide) _)] at same
          exact absurd ⟨last, name, isLast, same⟩ refused

/-! ## Searching a block -/

/-- A search passes over what begins neither a portion nor an address. -/
theorem hits_plain {front : Text}
    (plain : ∀ c ∈ front, Script.beginsPortion c = false ∧ c ≠ .char '@') (after : Text) :
    Search.hits splitItem (front ++ after) = Search.hits splitItem after := by
  refine Search.hits_append fun done rest split some_ => ?_
  obtain ⟨c, later, rfl⟩ := List.exists_cons_of_ne_nil some_
  obtain ⟨unlike, unnamed⟩ := plain c (split ▸ List.mem_append_right done List.mem_cons_self)
  exact splitItem_none (Reader.ends_cons unlike _) fun same => unnamed (Option.some.inj same)

theorem hits_row {row : Text} (blank : IsRow row) (after : Text) :
    Search.hits splitItem (row ++ after) = Search.hits splitItem after :=
  hits_plain (fun c mem =>
    ⟨Script.beginsPortion_of_isBlank (blank c mem), ne_of_isBlank (blank c mem) (by decide)⟩) after

theorem hits_kept (after : Text) :
    Search.hits splitItem (Destination.keptWord ++ after) = Search.hits splitItem after :=
  hits_plain (by decide +kernel) after

/-- A search passes over a portion with nothing on offer behind it. -/
theorem hits_portion {portion gap t : Text} (share : Script.IsPortion portion) (apart : IsGap gap)
    (ends : Reader.Ends isBlank t) (refused : ¬Offers t) :
    Search.hits splitItem (portion ++ (gap ++ t)) = Search.hits splitItem t := by
  rw [← hits_row apart.blank t]
  refine Search.hits_append fun done rest split some_ => ?_
  have inside {c : CodePoint} (mem : c ∈ rest) : c ∈ portion :=
    split ▸ List.mem_append_right done mem
  have unnamed : (.char '@' : CodePoint) ∉ portion := share.free (by decide +kernel) (by decide)
  exact splitItem_word_none some_ (fun c mem => share.inner.isToken.solid c (inside mem))
    (fun mem => unnamed (inside mem)) apart ends refused

section Entries

variable {after : Text}

/-- The accounts that are found in a text with their portions. -/
def found (t : Text) : List (Option Text × Text) := (Search.hits splitItem t).map Prod.snd

theorem found_receiver {receiver : Receiver} (named : Entry.IsNamed receiver)
    (ends : ∀ address, receiver = .account address → Reader.Ends Script.isAddressChar after) :
    found (Destination.receiverToken receiver ++ after) =
      Destination.named ⟨receiver, none⟩ ++ found after := by
  cases receiver with
  | kept => exact congrArg (List.map Prod.snd) (hits_kept after)
  | account address =>
      have spelled := named address rfl
      have read := splitItem_account spelled (ends address rfl)
      exact congrArg (List.map Prod.snd) (Search.hits_some spelled.inner.nonempty read)

theorem not_offers_receiver {receiver : Receiver} (named : Entry.IsNamed receiver) :
    ¬Offers (Destination.receiverToken receiver ++ after) := by
  rintro ⟨gap, rest, -, split⟩
  have first := congrArg List.head? split
  rcases Destination.receiver_head? named after with letter | letter
  all_goals
    rw [letter] at first
    exact absurd (Option.some.inj first) (by decide)

theorem not_offers_kept {last : Text} (final : IsGap last) :
    ¬Offers (("to" : Text) ++ (last ++ (Destination.keptWord ++ after))) := by
  rintro ⟨gap, rest, isGap, split⟩
  have solid : Reader.Ends isBlank (Destination.keptWord ++ after) :=
    Reader.ends_cons (by decide) _
  have same := congrArg (List.dropWhile isBlank) (List.append_cancel_left split)
  rw [Text.dropWhile_append final.blank solid,
    Text.dropWhile_append isGap.blank (Reader.ends_cons (by decide) rest)] at same
  have first : some (CodePoint.char 'k') = some (CodePoint.char '@') := congrArg List.head? same
  exact absurd first (by decide)

/-- A kept share is passed over, with its portion and the word between. -/
theorem hits_shareTo_kept {portion gap last : Text} (share : Script.IsPortion portion)
    (apart : IsGap gap) (final : IsGap last) :
    Search.hits splitItem
        (portion ++ (gap ++ (("to" : Text) ++ (last ++ (Destination.keptWord ++ after))))) =
      Search.hits splitItem after := by
  have bridge : Reader.Ends isBlank (("to" : Text) ++ (last ++ (Destination.keptWord ++ after))) :=
    clauseWords_ends "to" (by decide) _
  have word : ∀ c ∈ ("to" : Text), Script.beginsPortion c = false ∧ c ≠ .char '@' := by
    decide +kernel
  rw [hits_portion share apart bridge (not_offers_kept final), hits_plain word,
    hits_row final.blank, hits_kept]

/-- An entry is found as it is seen. -/
theorem found_entry {entry : Entry} {w : Text} (spelled : entry.Spelled w)
    (ends : ∀ address, entry.receiver = .account address →
      Reader.Ends Script.isAddressChar after) :
    found (w ++ after) = entry.seen.named ++ found after := by
  cases spelled with
  | whole named => exact found_receiver named ends
  | @share portion gap receiver share apart named =>
      have solid : Reader.Ends isBlank (Destination.receiverToken receiver ++ after) :=
        Destination.receiver_ends named (by decide) (by decide) after
      simp only [List.append_assoc]
      rw [found, hits_portion share apart solid (not_offers_receiver named)]
      exact found_receiver named ends
  | @shareTo portion gap last receiver share apart final named =>
      cases receiver with
      | account address =>
          have read := splitItem_shareTo (named address rfl) (ends address rfl) share apart final
          exact congrArg (List.map Prod.snd) (Search.hits_some
            (List.append_ne_nil_of_left_ne_nil share.inner.nonempty _) read)
      | kept =>
          simp only [List.append_assoc]
          exact congrArg (List.map Prod.snd) (hits_shareTo_kept share apart final)

end Entries

/-- In a block the entries are found one after the other, as they are seen. -/
theorem found_listed {entries : List Entry} {inner : Text} (listed : Entry.Listed entries inner) :
    found inner = entries.flatMap fun entry => entry.seen.named := by
  induction listed with
  | nil blank =>
      have passed := hits_row blank []
      rw [List.append_nil, Search.hits_nil] at passed
      rw [found, passed]
      rfl
  | cons blank spelled ends others ih =>
      rw [found, hits_row blank, ← found, found_entry spelled ends, ih, List.flatMap_cons]

end Preview

end DoubleEntry
