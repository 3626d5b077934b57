import DoubleEntry.Proofs.Script.Spelling
import DoubleEntry.Proofs.Text.Search

/-!
# Reading the fragments of a send

Each fragment of a send is read off the text that spells it, up to the gap behind it.
-/

namespace DoubleEntry

open Text (IsGap Trail Parted)

/-! ## Literals -/

namespace Monetary

/-- Whether a text spells a literal. -/
def Spelled (m : Monetary) (t : Text) : Prop :=
  ∃ gap, IsGap gap ∧ t = Text.enclosed '[' ']' (m.asset ++ (gap ++ m.quantity.text))

theorem bracket_ends (inner after : Text) :
    Reader.Ends isBlank (Text.enclosed '[' ']' inner ++ after) :=
  Reader.ends_cons (by decide) _

theorem trail_tokens {m : Monetary} {rest : List Text} {t : Text} :
    Trail (m.tokens ++ rest) t ↔
      ∃ gap literal later, t = gap ++ (literal ++ later) ∧ IsGap gap ∧ m.Spelled literal ∧
        Trail rest later := by
  constructor
  · intro trail
    obtain ⟨gap, behind, rfl, apart, inside⟩ := Text.trail_cons.mp trail
    obtain ⟨between, later, rfl, within, trail⟩ := Text.trail_cons.mp inside
    exact ⟨gap, _, later, by simp [Text.enclosed], apart, ⟨between, within, rfl⟩, trail⟩
  · rintro ⟨gap, literal, later, rfl, apart, ⟨between, within, rfl⟩, trail⟩
    have split : gap ++ (Text.enclosed '[' ']' (m.asset ++ (between ++ m.quantity.text)) ++ later) =
        gap ++ (("[" : Text) ++ m.asset ++ (between ++ (m.quantity.text ++ "]" ++ later))) := by
      simp [Text.enclosed]
    rw [split]
    exact Trail.cons apart (Trail.cons within trail)

section Legible

variable {m : Monetary} (legible : m.IsLegible)
include legible

theorem IsLegible.assetChar {c : CodePoint} (mem : c ∈ m.asset) : isAssetChar c = true := by
  obtain ⟨solid, other⟩ := legible.asset c mem
  rw [isAssetChar, solid, decide_eq_true other]
  rfl

/-- The brackets around a literal are its only ones that close. -/
theorem IsLegible.bracketed {t : Text} (spelled : m.Spelled t) :
    ∃ inner, t = Text.enclosed '[' ']' inner ∧ inner ≠ [] ∧ (']' : CodePoint) ∉ inner := by
  obtain ⟨gap, apart, rfl⟩ := spelled
  refine ⟨_, rfl, by simp [legible.named], ?_⟩
  intro mem
  rcases List.mem_append.mp mem with asset | behind
  · exact (legible.asset _ asset).2 rfl
  · rcases List.mem_append.mp behind with between | amount
    · exact absurd (apart.blank _ between) (by decide)
    · cases given : m.quantity with
      | everything =>
          rw [given] at amount
          exact absurd amount (by decide)
      | exactly n =>
          rw [given] at amount
          exact Decimal.notMem_ofNat (by decide +kernel) n amount

/-- The digits of a quantity, unless it is everything there is. -/
def digits? : Quantity → Option Text
  | .exactly amount => some (Decimal.ofNat amount)
  | .everything => none

omit legible in
theorem quantity_read (quantity : Quantity) (after : Text) :
    (some <$> Reader.many1 isDecimalDigit <|>
      (do Reader.word "*"; return none) : Reader (Option Text))
      (quantity.text ++ (.char ']' :: after)) = some (digits? quantity, .char ']' :: after) := by
  cases quantity with
  | everything =>
      rw [Reader.or_none (Reader.map_none (Reader.many1_none ?_) _)]
      · rfl
      · exact Reader.ends_cons (by decide +kernel) _
  | exactly amount =>
      refine Reader.or_some (Reader.map_some (Reader.many1_append ?_ ?_ ?_) _) _
      · exact fun c => Decimal.isDecimalDigit_of_mem_ofNat
      · exact Reader.ends_cons (by decide +kernel) _
      · exact Decimal.ofNat_ne_nil amount

omit legible in
theorem quantity_isToken (quantity : Quantity) : Text.IsToken quantity.text := by
  cases quantity with
  | everything => exact ⟨by decide, by decide⟩
  | exactly amount =>
      exact ⟨Decimal.ofNat_ne_nil amount, fun c mem =>
        isBlank_of_isDecimalDigit (Decimal.isDecimalDigit_of_mem_ofNat mem)⟩

theorem IsLegible.literal_read {t : Text} (spelled : m.Spelled t) (after : Text) :
    literal (t ++ after) = some ((m.asset, digits? m.quantity), after) := by
  obtain ⟨gap, apart, rfl⟩ := spelled
  have split : Text.enclosed '[' ']' (m.asset ++ (gap ++ m.quantity.text)) ++ after =
      .char '[' :: (m.asset ++ (gap ++ (m.quantity.text ++ (.char ']' :: after)))) := by
    simp [Text.enclosed]
  have parted : Parted (gap ++ (m.quantity.text ++ (.char ']' :: after))) := apart.parted _
  have asset : Reader.many1 isAssetChar
      (m.asset ++ (gap ++ (m.quantity.text ++ (.char ']' :: after)))) =
        some (m.asset, gap ++ (m.quantity.text ++ (.char ']' :: after))) :=
    Reader.many1_append (fun c => legible.assetChar)
      (parted.ends fun c blank => by simp [isAssetChar, blank]) legible.named
  rw [split, Monetary.literal, Reader.bind_some (Reader.char_some (by decide) _),
    Reader.bind_some asset, Reader.bind_some (apart.read ((quantity_isToken _).ends _)),
    Reader.bind_some (quantity_read m.quantity after),
    Reader.bind_some (Reader.char_some (by decide) _)]
  rfl

/-- A literal is read off its text. -/
theorem IsLegible.ofText_spelled {t : Text} (spelled : m.Spelled t) : Monetary.ofText t = .ok m := by
  have some_ : t ≠ [] := by
    obtain ⟨gap, -, rfl⟩ := spelled
    exact List.cons_ne_nil _ _
  have found := Search.first?_append Search.anywhere rfl some_ (legible.literal_read spelled [])
  rw [List.append_nil] at found
  rw [Monetary.ofText, found]
  dsimp only
  cases given : m.quantity with
  | everything =>
      rw [digits?, ofParts, ← given]
  | exactly amount =>
      have short := legible.short
      rw [given, Quantity.text] at short
      rw [digits?, ofParts, if_pos short, Decimal.value_ofNat, ← given]

end Legible

end Monetary

/-! ## References and portions -/

namespace Script

theorem bracketed_read {inner : Text} (free : (']' : CodePoint) ∉ inner) (nonempty : inner ≠ [])
    (after : Text) :
    bracketed (Text.enclosed '[' ']' inner ++ after) = some (inner, after) :=
  Reader.enclosed1_append free nonempty after

theorem IsAddress.head? {address : Text} (spelled : IsAddress address) (after : Text) :
    (address ++ after).head? = some (.char '@') := by
  obtain ⟨nonempty, chars⟩ := spelled
  rfl

theorem isAddressChar_of_isBlank {c : CodePoint} (blank : isBlank c = true) :
    isAddressChar c = false := by
  have apart {mark : CodePoint} (solid : isBlank mark = false) : decide (c = mark) = false :=
    decide_eq_false (ne_of_isBlank blank solid)
  rw [isAddressChar, isWordChar_of_isBlank blank, apart (by decide), apart (by decide),
    apart (by decide), apart (by decide)]
  rfl

/-- An address is read up to what cannot belong to it. -/
theorem IsAddress.address_read {address : Text} (spelled : IsAddress address) {after : Text}
    (ends : Reader.Ends isAddressChar after) :
    Script.address (address ++ after) = some (address, after) := by
  obtain ⟨nonempty, chars⟩ := spelled
  rename_i name
  have row : Reader.many1 isAddressChar (name ++ after) = some (name, after) := by
    refine Reader.many1_append (fun c mem => ?_) ends nonempty
    rcases chars c mem with letter | rfl | rfl <;> simp [isAddressChar, *]
  rw [List.cons_append, Script.address, Reader.bind_some (Reader.char_some (by decide) _),
    Reader.bind_some row]
  rfl

/-- A reference is read up to the next blank. -/
theorem IsAddress.read {address : Text} (spelled : IsAddress address) {after : Text}
    (parted : Parted after) : accountRef (address ++ after) = some (address, after) :=
  Reader.or_some (spelled.address_read (parted.ends fun _ => isAddressChar_of_isBlank)) _

theorem accountRef_none {t : Text} (address : t.head? ≠ some (.char '@'))
    (variable_ : t.head? ≠ some (.char '$')) : accountRef t = none := by
  have ends {mark : CodePoint} (other : t.head? ≠ some mark) :
      Reader.Ends (fun c => decide (c = mark)) t := by
    intro c first
    refine decide_eq_false ?_
    rintro rfl
    exact other first
  have unsigned : Script.address t = none :=
    Reader.bind_none (Reader.char_none (ends address)) _
  rw [accountRef, Reader.or_none unsigned]
  exact Reader.bind_none (Reader.char_none (ends variable_)) _

/-! ## Blocks -/

theorem trail_block {items : List Text} {t : Text}
    (trail : Trail (blockTokens items) t) :
    ∃ gap inner last, t = gap ++ Text.enclosed '{' '}' (inner ++ last) ∧ IsGap gap ∧
      Trail items inner ∧ IsGap last := by
  obtain ⟨gap, later, rfl, apart, trail⟩ := Text.trail_cons.mp trail
  obtain ⟨inner, tail, rfl, row, closing⟩ := Text.trail_append.mp trail
  obtain ⟨last, rest, rfl, final, ending⟩ := Text.trail_cons.mp closing
  cases ending
  exact ⟨gap, inner, last, by simp [Text.enclosed], apart, row, final⟩

/-- Nothing in a block closes it early. -/
theorem block_free {items : List Text} {t last : Text} (trail : Trail items t) (apart : IsGap last)
    (inner : ∀ w ∈ items, IsInner w) : (.char '}' : CodePoint) ∉ t ++ last := by
  refine trail.notMem_gap apart (by decide) fun w listed inside => ?_
  have outside : isTokenChar (.char '}') = false := by decide +kernel
  rw [(inner w listed).inner _ inside] at outside
  cases outside

theorem braceBlock_read {inner : Text} (free : (.char '}' : CodePoint) ∉ inner) (after : Text) :
    braceBlock (Text.enclosed '{' '}' inner ++ after) =
      some (Text.enclosed '{' '}' inner, after) := by
  rw [braceBlock, Reader.bind_some (Reader.enclosed_append free after)]
  rfl

theorem braceBlock_none {t : Text} (other : t.head? ≠ some (.char '{')) : braceBlock t = none := by
  refine Reader.bind_none (Reader.bind_none (Reader.char_none fun c first => ?_) _) _
  refine decide_eq_false ?_
  rintro rfl
  exact other first

theorem strip_block (inner : Text) :
    (Text.enclosed '{' '}' inner).strip = Text.enclosed '{' '}' inner := by
  refine Text.strip_eq_self (Reader.ends_cons (by decide) _) ?_
  have mirrored : (Text.enclosed '{' '}' inner).reverse = Text.enclosed '}' '{' inner.reverse := by
    simp [Text.enclosed]
  rw [mirrored]
  exact Reader.ends_cons (by decide) _

theorem block_ends (inner after : Text) :
    Reader.Ends isBlank (Text.enclosed '{' '}' inner ++ after) :=
  Reader.ends_cons (by decide) _

theorem blockBody_block (inner : Text) : blockBody (Text.enclosed '{' '}' inner) = inner := by
  simp [blockBody, Text.enclosed]

/-- A portion is read up to the next blank. -/
theorem IsPortion.read {p : Text} (spelled : IsPortion p) {after : Text} (parted : Parted after) :
    portion (p ++ after) = some (p, after) := by
  cases spelled with
  | @percentage number nonempty digits =>
      have row : Reader.many1 (fun c => isDecimalDigit c || c = '.')
          (number ++ (.char '%' :: after)) = some (number, .char '%' :: after) := by
        refine Reader.many1_append (fun c mem => ?_) (Reader.ends_cons (by decide +kernel) _) nonempty
        rcases digits c mem with digit | rfl <;> simp [*]
      refine Reader.or_some ?_ _
      have split : number ++ ("%" : Text) ++ after = number ++ (.char '%' :: after) := by simp
      rw [split, Script.percentage, Reader.bind_some row,
        Reader.bind_some (Reader.char_some (by decide) _)]
      rfl
  | @fraction numerator denominator above digits below others =>
      have split : numerator ++ ("/" : Text) ++ denominator ++ after =
          numerator ++ (.char '/' :: (denominator ++ after)) := by simp
      have row : Reader.many1 (fun c => isDecimalDigit c || c = '.')
          (numerator ++ (.char '/' :: (denominator ++ after))) =
            some (numerator, .char '/' :: (denominator ++ after)) := by
        refine Reader.many1_append (fun c mem => ?_) (Reader.ends_cons (by decide +kernel) _) above
        simp [digits c mem]
      have first : Reader.many1 isDecimalDigit
          (numerator ++ (.char '/' :: (denominator ++ after))) =
            some (numerator, .char '/' :: (denominator ++ after)) :=
        Reader.many1_append digits (Reader.ends_cons (by decide +kernel) _) above
      have second : Reader.many1 isDecimalDigit (denominator ++ after) =
          some (denominator, after) :=
        Reader.many1_append others (parted.ends fun c => isDecimalDigit_of_isBlank) below
      have unlike : Script.percentage (numerator ++ (.char '/' :: (denominator ++ after))) = none := by
        rw [Script.percentage, Reader.bind_some row]
        exact Reader.bind_none (Reader.char_none (Reader.ends_cons (by decide) _)) _
      rw [split, portion, Reader.or_none unlike]
      refine Reader.or_some ?_ _
      rw [Script.fraction, Reader.bind_some first,
        Reader.bind_some (Reader.char_some (by decide) _), Reader.bind_some second]
      rfl
  | remaining =>
      have uncounted : Script.percentage (remainingWord ++ after) = none :=
        Reader.bind_none (Reader.many1_none (Reader.ends_cons (by decide +kernel) _)) _
      have undivided : Script.fraction (remainingWord ++ after) = none :=
        Reader.bind_none (Reader.many1_none (Reader.ends_cons (by decide +kernel) _)) _
      rw [portion, Reader.or_none uncounted, Reader.or_none undivided,
        Reader.bind_some (Reader.word_append _ _)]
      rfl

/-- Whether a portion can begin with a character. -/
def beginsPortion (c : CodePoint) : Bool := isDecimalDigit c || c = '.' || c = 'r'

theorem beginsPortion_of_isBlank {c : CodePoint} (blank : isBlank c = true) :
    beginsPortion c = false := by
  have apart {mark : CodePoint} (solid : isBlank mark = false) : decide (c = mark) = false :=
    decide_eq_false (ne_of_isBlank blank solid)
  rw [beginsPortion, isDecimalDigit_of_isBlank blank, apart (by decide), apart (by decide)]
  rfl

theorem portion_none {t : Text} (unlike : Reader.Ends beginsPortion t) : portion t = none := by
  have uncounted : Script.percentage t = none :=
    Reader.bind_none (Reader.many1_none (unlike.mono fun c h => by simp_all [beginsPortion])) _
  have undivided : Script.fraction t = none :=
    Reader.bind_none (Reader.many1_none (unlike.mono fun c h => by simp_all [beginsPortion])) _
  rw [portion, Reader.or_none uncounted, Reader.or_none undivided]
  refine Reader.bind_none (Reader.word_none (c := 'r') (fun same => ?_) _) _
  exact absurd (unlike _ same) (by decide +kernel)

end Script

/-! ## Sources -/

namespace Source

/-- Whether neither a grant nor a limit comes next. -/
structure Behind (after : Text) : Prop where
  parted : Parted after
  ungranted : (after.dropWhile isBlank).head? ≠ some (.char 'a')
  unlimited : (after.dropWhile isBlank).head? ≠ some (.char 'u')

/-- Whether a text spells a cap, up to the account behind it. -/
inductive CapSpelled : Option Monetary → Text → Prop
  | none : CapSpelled none []
  | some {cap : Monetary} {first literal second third : Text} (head : IsGap first)
      (spelled : cap.Spelled literal) (middle : IsGap second) (tail : IsGap third) :
      CapSpelled (some cap)
        (("max" : Text) ++ (first ++ (literal ++ (second ++ (("from" : Text) ++ third)))))

/-- Whether a text spells a source. -/
def Spelled (source : Source) (w : Text) : Prop :=
  ∃ front later, w = front ++ (source.account ++ later) ∧ CapSpelled source.cap front ∧
    Trail (grantTokens source.overdraft) later

theorem Spelled.laidOut {source : Source} {w : Text} (spelled : source.Spelled w) :
    Text.LaidOut source.tokens w := by
  obtain ⟨account, cap, overdraft⟩ := source
  obtain ⟨front, later, rfl, capped, granted⟩ := spelled
  rw [tokens]
  cases capped with
  | none => exact ⟨later, rfl, granted⟩
  | @some cap first literal second third head spelled middle tail =>
      have trail : Trail (cap.tokens ++ ([("from" : Text)] ++ account :: grantTokens overdraft))
          (first ++ (literal ++ (second ++ (("from" : Text) ++ (third ++ (account ++ later)))))) :=
        Monetary.trail_tokens.mpr
          ⟨first, literal, _, rfl, head, spelled, Trail.cons middle (Trail.cons tail granted)⟩
      rw [← List.append_assoc] at trail
      exact ⟨_, by simp, trail⟩

theorem trail_tokens {source : Source} {rest : List Text} {t : Text}
    (trail : Trail (source.tokens ++ rest) t) :
    ∃ gap w behind, t = gap ++ (w ++ behind) ∧ IsGap gap ∧ source.Spelled w ∧
      Trail rest behind := by
  have rear {t : Text} (trail : Trail (source.account :: (grantTokens source.overdraft ++ rest)) t) :
      ∃ gap later behind, t = gap ++ (source.account ++ (later ++ behind)) ∧ IsGap gap ∧
        Trail (grantTokens source.overdraft) later ∧ Trail rest behind := by
    obtain ⟨gap, tail, rfl, apart, trail⟩ := Text.trail_cons.mp trail
    obtain ⟨later, behind, rfl, granted, trail⟩ := Text.trail_append.mp trail
    exact ⟨gap, later, behind, rfl, apart, granted, trail⟩
  rw [tokens, List.append_assoc, List.cons_append] at trail
  unfold Spelled
  cases given : source.cap with
  | none =>
      rw [given] at trail
      obtain ⟨gap, later, behind, rfl, apart, granted, trail⟩ := rear trail
      exact ⟨gap, _, behind, by simp, apart, ⟨[], later, rfl, CapSpelled.none, granted⟩, trail⟩
  | some cap =>
      rw [given, capTokens, List.cons_append, List.append_assoc] at trail
      obtain ⟨gap, inside, rfl, apart, trail⟩ := Text.trail_cons.mp trail
      obtain ⟨first, literal, inside, rfl, head, spelled, trail⟩ := Monetary.trail_tokens.mp trail
      obtain ⟨second, inside, rfl, middle, trail⟩ := Text.trail_cons.mp trail
      obtain ⟨third, later, behind, rfl, tail, granted, trail⟩ := rear trail
      exact ⟨gap, _, behind, by simp, apart,
        ⟨_, later, rfl, CapSpelled.some head spelled middle tail, granted⟩, trail⟩

theorem cap_read {cap : Option Monetary} {front : Text} (spelled : CapSpelled cap front)
    (plain : ∀ m ∈ cap, m.IsPlain) :
    ∃ inner, monetary? inner = .ok cap ∧ inner.isSome = cap.isSome ∧
      ∀ {account : Text}, Script.IsAddress account → ∀ after,
        Reader.optional capClause (front ++ (account ++ after)) = some (inner, account ++ after) := by
  cases spelled with
  | none =>
      refine ⟨none, rfl, rfl, fun {account} address after => ?_⟩
      have other : (account ++ after).head? ≠ some (.char 'm') := by
        rw [address.head?]
        decide
      exact Reader.optional_none (Reader.bind_none (Reader.word_none other _) _)
  | @some cap first literal second third head spelled middle tail =>
      have plain := plain cap rfl
      obtain ⟨inner, rfl, nonempty, free⟩ := plain.isLegible.bracketed spelled
      refine ⟨some inner, ?_, rfl, fun {account} address after => Reader.optional_some ?_⟩
      · rw [monetary?, plain.isLegible.ofText_spelled spelled]
        rfl
      · have solid : Reader.Ends isBlank (account ++ after) := address.inner.isToken.ends after
        have split : ("max" : Text) ++ (first ++ (Text.enclosed '[' ']' inner ++
            (second ++ (("from" : Text) ++ third)))) ++ (account ++ after) =
            ("max" : Text) ++ (first ++ (Text.enclosed '[' ']' inner ++ (second ++
              (("from" : Text) ++ (third ++ (account ++ after)))))) := by simp
        rw [split, capClause, Reader.bind_some (Reader.word_append _ _),
          Reader.bind_some (head.read (Monetary.bracket_ends inner _)),
          Reader.bind_some (Script.bracketed_read free nonempty _),
          Reader.bind_some (middle.read (clauseWords_ends "from" (by decide) _)),
          Reader.bind_some (Reader.word_append _ _), Reader.bind_some (tail.read solid)]
        rfl

/-- The limit of an overdraft. -/
def limitClause : Reader Text := do
  Reader.gap
  Reader.word "up"
  Reader.gap
  Reader.word "to"
  Reader.gap
  Script.bracketed

theorem limit_read {limit : Option Monetary} {later : Text} (trail : Trail (limitTokens limit) later)
    (plain : ∀ m ∈ limit, m.IsPlain) :
    ∃ inner, monetary? inner = .ok limit ∧ ∀ after, Behind after →
      Reader.optional limitClause (later ++ after) = some (inner, after) := by
  cases limit with
  | none =>
      cases trail
      refine ⟨none, rfl, fun after behind => ?_⟩
      exact Reader.optional_none (Text.gap_word_none behind.unlimited _ _)
  | some limit =>
      have plain := plain limit rfl
      obtain ⟨first, inside, rfl, head, trail⟩ := Text.trail_cons.mp trail
      obtain ⟨second, inside, rfl, middle, trail⟩ := Text.trail_cons.mp trail
      rw [← List.append_nil limit.tokens] at trail
      obtain ⟨third, literal, rest, rfl, tail, spelled, ending⟩ := Monetary.trail_tokens.mp trail
      cases ending
      obtain ⟨inner, rfl, nonempty, free⟩ := plain.isLegible.bracketed spelled
      refine ⟨some inner, ?_, fun after behind => Reader.optional_some ?_⟩
      · rw [monetary?, plain.isLegible.ofText_spelled spelled]
        rfl
      · have split : first ++ (("up" : Text) ++ (second ++ (("to" : Text) ++ (third ++
            (Text.enclosed '[' ']' inner ++ []))))) ++ after =
            first ++ (("up" : Text) ++ (second ++ (("to" : Text) ++ (third ++
              (Text.enclosed '[' ']' inner ++ after))))) := by simp
        rw [split, limitClause, Reader.bind_some (head.read (clauseWords_ends "up" (by decide) _)),
          Reader.bind_some (Reader.word_append _ _),
          Reader.bind_some (middle.read (clauseWords_ends "to" (by decide) _)),
          Reader.bind_some (Reader.word_append _ _),
          Reader.bind_some (tail.read (Monetary.bracket_ends inner _))]
        exact Script.bracketed_read free nonempty _

/-- The word for an overdraft without bounds. -/
def unboundedClause : Reader Unit := do
  Reader.word "unbounded"
  Reader.gap

theorem grant_eq : grant = (do
    Reader.gap
    Reader.word grantWord
    Reader.gap
    let unbounded ← Reader.optional unboundedClause
    Reader.word "overdraft"
    let limit ← Reader.optional limitClause
    return (unbounded.isSome, limit)) := rfl

theorem unbounded_read {unbounded : Bool} {rest : List Text} {later : Text}
    (trail : Trail ((if unbounded then [("unbounded" : Text)] else []) ++
      ("overdraft" : Text) :: rest) later) :
    ∃ gap inside tail parsed, later = gap ++ inside ∧ IsGap gap ∧ Trail rest tail ∧
      parsed.isSome = unbounded ∧ ∀ after, Reader.Ends isBlank (inside ++ after) ∧
        Reader.optional unboundedClause (inside ++ after) =
          some (parsed, ("overdraft" : Text) ++ (tail ++ after)) := by
  cases unbounded with
  | false =>
      obtain ⟨gap, tail, rfl, apart, trail⟩ := Text.trail_cons.mp trail
      refine ⟨gap, _, tail, none, rfl, apart, trail, rfl, fun after => ?_⟩
      rw [List.append_assoc]
      refine ⟨clauseWords_ends "overdraft" (by decide) _, ?_⟩
      have other : (("overdraft" : Text) ++ (tail ++ after)).head? ≠ some (.char 'u') := by
        change some (CodePoint.char 'o') ≠ some (CodePoint.char 'u')
        decide
      exact Reader.optional_none (Reader.bind_none (Reader.word_none other _) _)
  | true =>
      obtain ⟨gap, inside, rfl, apart, trail⟩ := Text.trail_cons.mp trail
      obtain ⟨between, tail, rfl, middle, trail⟩ := Text.trail_cons.mp trail
      refine ⟨gap, _, tail, some (), rfl, apart, trail, rfl, fun after => ?_⟩
      rw [List.append_assoc, List.append_assoc, List.append_assoc]
      refine ⟨clauseWords_ends "unbounded" (by decide) _, Reader.optional_some ?_⟩
      rw [unboundedClause, Reader.bind_some (Reader.word_append _ _)]
      exact middle.read (clauseWords_ends "overdraft" (by decide) _)

theorem grant_read {overdraft : Overdraft} {later : Text}
    (trail : Trail (grantTokens overdraft) later) (plain : ∀ m ∈ overdraft.limit?, m.IsPlain) :
    ∃ parsed, parsed.any Prod.fst = overdraft.isUnbounded ∧
      monetary? (parsed.bind Prod.snd) = .ok overdraft.limit? ∧ ∀ after, Behind after →
        Reader.optional grant (later ++ after) = some (parsed, after) := by
  cases overdraft with
  | refused =>
      cases trail
      refine ⟨none, rfl, rfl, fun after behind => ?_⟩
      exact Reader.optional_none (Text.gap_word_none behind.ungranted _ _)
  | granted unbounded limit =>
      obtain ⟨first, inside, rfl, head, trail⟩ := Text.trail_cons.mp trail
      obtain ⟨second, inside, tail, bound, rfl, middle, trail, same, readBound⟩ :=
        unbounded_read trail
      obtain ⟨inner, noted, readLimit⟩ := limit_read trail plain
      refine ⟨some (bound.isSome, inner), same, noted, fun after behind => ?_⟩
      obtain ⟨solid, readBound⟩ := readBound after
      apply Reader.optional_some
      rw [List.append_assoc, List.append_assoc, List.append_assoc, grant_eq,
        Reader.bind_some (head.read (clauseWords_ends grantWord (by decide) _)),
        Reader.bind_some (Reader.word_append _ _), Reader.bind_some (middle.read solid),
        Reader.bind_some readBound, Reader.bind_some (Reader.word_append _ _),
        Reader.bind_some (readLimit after behind)]
      rfl

end Source

end DoubleEntry
