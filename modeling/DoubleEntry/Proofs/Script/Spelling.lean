import DoubleEntry.Proofs.Text.Layout
import DoubleEntry.Script.Send

/-!
# How sends are written

A send statement is written token by token: its literal, its sources and then its
destinations, each of them in a block or, where it is a single account, on its own.
-/

namespace DoubleEntry

/-! ## Tokens -/

/-- Whether a character can stand in the tokens of a literal, a source or a
destination. -/
def isTokenChar (c : CodePoint) : Bool :=
  isWordChar c || isDecimalDigit c || ("@:-/.%[]*" : Text).contains c

/-- Whether a text is some of these characters. -/
structure IsInner (w : Text) : Prop where
  nonempty : w ≠ []
  inner : ∀ c ∈ w, isTokenChar c = true

theorem isBlank_of_isTokenChar {c : CodePoint} (h : isTokenChar c = true) : isBlank c = false := by
  have marks : ∀ c ∈ ("@:-/.%[]*" : Text), isBlank c = false := by decide
  rw [isTokenChar, Bool.or_eq_true, Bool.or_eq_true, List.contains_iff_mem] at h
  rcases h with (letter | digit) | mark
  · exact isBlank_of_isWordChar letter
  · exact isBlank_of_isDecimalDigit digit
  · exact marks c mark

theorem IsInner.isToken {w : Text} (h : IsInner w) : Text.IsToken w :=
  ⟨h.nonempty, fun c mem => isBlank_of_isTokenChar (h.inner c mem)⟩

theorem isTokenChar_of_isWordChar {c : CodePoint} (h : isWordChar c = true) :
    isTokenChar c = true := by
  simp [isTokenChar, h]

theorem isTokenChar_of_isDecimalDigit {c : CodePoint} (h : isDecimalDigit c = true) :
    isTokenChar c = true := by
  simp [isTokenChar, h]

/-- Items between braces. -/
def blockTokens (items : List Text) : List Text :=
  ("\x7b" : Text) :: (items ++ [("\x7d" : Text)])

/-- Whether a text is a token of sources or destinations: some of these characters, or a
brace. -/
def IsClauseToken (w : Text) : Prop := IsInner w ∨ w = "\x7b" ∨ w = "\x7d"

theorem IsClauseToken.free {w : Text} (h : IsClauseToken w) {c : CodePoint}
    (delimiter : c ∈ (")=" : Text)) : c ∉ w := by
  have unlike : ∀ c ∈ (")=" : Text), isTokenChar c = false ∧ c ∉ ("\x7b" : Text) ∧ c ∉ ("\x7d" : Text) := by
    decide +kernel
  obtain ⟨outside, opening, closing⟩ := unlike c delimiter
  rcases h with inner | rfl | rfl
  · intro mem
    rw [inner.inner c mem] at outside
    cases outside
  · exact opening
  · exact closing

theorem IsClauseToken.block {items : List Text} (inner : ∀ w ∈ items, IsInner w) :
    ∀ w ∈ blockTokens items, IsClauseToken w := by
  refine List.forall_mem_cons.mpr ⟨Or.inr (Or.inl rfl), List.forall_mem_append.mpr
    ⟨fun w mem => Or.inl (inner w mem), List.forall_mem_singleton.mpr (Or.inr (Or.inr rfl))⟩⟩

/-- The words of clauses. -/
def clauseWords : List Text :=
  ["max", "from", "up", "to", "unbounded", "overdraft", Source.grantWord, Destination.keptWord]

theorem clauseWords_inner : ∀ w ∈ clauseWords, IsInner w := by
  have inner : ∀ w ∈ clauseWords, w ≠ [] ∧ ∀ c ∈ w, isTokenChar c = true := by decide +kernel
  exact fun w mem => ⟨(inner w mem).1, (inner w mem).2⟩

theorem clauseWords_ends (w : Text) (h : w ∈ clauseWords) (after : Text) :
    Reader.Ends isBlank (w ++ after) :=
  (clauseWords_inner w h).isToken.ends after

/-! ## Literals -/

namespace Monetary

/-- The tokens of a literal. -/
def tokens (m : Monetary) : List Text := [("[" : Text) ++ m.asset, m.quantity.text ++ "]"]

/-- Whether a literal can be told from its text: its asset is some characters that are neither
blanks nor closing brackets, and its numeral is not too long. -/
structure IsLegible (m : Monetary) : Prop where
  named : m.asset ≠ []
  asset : ∀ c ∈ m.asset, isBlank c = false ∧ c ≠ ']'
  short : m.quantity.text.length ≤ Decimal.digitLimit

/-- Whether a literal can be written and read: its asset is some word characters and
slashes, and its numeral is not too long. -/
structure IsPlain (m : Monetary) : Prop where
  named : m.asset ≠ []
  asset : ∀ c ∈ m.asset, isWordChar c = true ∨ c = '/'
  short : m.quantity.text.length ≤ Decimal.digitLimit

instance (m : Monetary) : Decidable m.IsPlain :=
  decidable_of_iff (m.asset ≠ [] ∧ (∀ c ∈ m.asset, isWordChar c = true ∨ c = '/') ∧
      m.quantity.text.length ≤ Decimal.digitLimit)
    ⟨fun ⟨named, asset, short⟩ => ⟨named, asset, short⟩,
      fun ⟨named, asset, short⟩ => ⟨named, asset, short⟩⟩

theorem IsPlain.isLegible {m : Monetary} (plain : m.IsPlain) : m.IsLegible where
  named := plain.named
  asset c mem := by
    have letter (h : isWordChar c = true) : c ≠ ']' := by
      rintro rfl
      exact absurd h (by decide +kernel)
    rcases plain.asset c mem with h | rfl
    · exact ⟨isBlank_of_isWordChar h, letter h⟩
    · exact ⟨by decide, by decide⟩
  short := plain.short

theorem IsPlain.inner {m : Monetary} (plain : m.IsPlain) : ∀ w ∈ m.tokens, IsInner w := by
  have asset : ∀ c ∈ m.asset, isTokenChar c = true := by
    intro c mem
    rcases plain.asset c mem with letter | rfl
    · exact isTokenChar_of_isWordChar letter
    · decide +kernel
  have quantity : ∀ c ∈ m.quantity.text, isTokenChar c = true := by
    cases m.quantity with
    | everything =>
        rw [Quantity.text]
        decide +kernel
    | exactly amount =>
        exact fun c mem => isTokenChar_of_isDecimalDigit (Decimal.isDecimalDigit_of_mem_ofNat mem)
  have brackets : ∀ c ∈ ("[]" : Text), isTokenChar c = true := by decide +kernel
  refine List.forall_mem_cons.mpr ⟨⟨List.cons_ne_nil _ _, ?_⟩, List.forall_mem_singleton.mpr ⟨?_, ?_⟩⟩
  · exact List.forall_mem_append.mpr ⟨fun c mem => brackets c (by simp_all), asset⟩
  · simp
  · exact List.forall_mem_append.mpr ⟨quantity, fun c mem => brackets c (by simp_all)⟩

end Monetary

/-! ## Addresses, sources and destinations -/

namespace Script

/-- Whether a text is the sigil and some word characters, colons and hyphens. -/
inductive IsAddress : Text → Prop
  | intro {name : Text} (nonempty : name ≠ [])
      (chars : ∀ c ∈ name, isWordChar c = true ∨ c = ':' ∨ c = '-') : IsAddress ('@' :: name)

instance : DecidablePred IsAddress
  | [] => isFalse nofun
  | sigil :: name =>
    decidable_of_iff (sigil = '@' ∧ name ≠ [] ∧ ∀ c ∈ name, isWordChar c = true ∨ c = ':' ∨ c = '-')
      ⟨fun ⟨same, nonempty, chars⟩ => same ▸ .intro nonempty chars,
        fun (.intro nonempty chars) => ⟨rfl, nonempty, chars⟩⟩

theorem IsAddress.inner {address : Text} (h : IsAddress address) : IsInner address := by
  obtain ⟨nonempty, chars⟩ := h
  refine ⟨List.cons_ne_nil _ _, List.forall_mem_cons.mpr ⟨by decide +kernel, fun c mem => ?_⟩⟩
  rcases chars c mem with letter | rfl | rfl
  · exact isTokenChar_of_isWordChar letter
  · decide +kernel
  · decide +kernel

/-- Whether a text is a percentage, a fraction or the word for what remains. -/
inductive IsPortion : Text → Prop
  | percentage {number : Text} (nonempty : number ≠ [])
      (digits : ∀ c ∈ number, isDecimalDigit c = true ∨ c = '.') : IsPortion (number ++ "%")
  | fraction {numerator denominator : Text} (above : numerator ≠ [])
      (digits : ∀ c ∈ numerator, isDecimalDigit c = true) (below : denominator ≠ [])
      (others : ∀ c ∈ denominator, isDecimalDigit c = true) :
      IsPortion (numerator ++ "/" ++ denominator)
  | remaining : IsPortion remainingWord

theorem IsPortion.inner {portion : Text} (h : IsPortion portion) : IsInner portion := by
  have marks : ∀ c ∈ ("%/" : Text), isTokenChar c = true := by decide +kernel
  cases h with
  | percentage nonempty digits =>
      refine ⟨by simp, List.forall_mem_append.mpr ⟨fun c mem => ?_, fun c mem => marks c ?_⟩⟩
      · rcases digits c mem with digit | rfl
        · exact isTokenChar_of_isDecimalDigit digit
        · decide +kernel
      · simp_all
  | fraction above digits below others =>
      refine ⟨by simp, List.forall_mem_append.mpr ⟨List.forall_mem_append.mpr ⟨?_, ?_⟩, ?_⟩⟩
      · exact fun c mem => isTokenChar_of_isDecimalDigit (digits c mem)
      · exact fun c mem => marks c (by simp_all)
      · exact fun c mem => isTokenChar_of_isDecimalDigit (others c mem)
  | remaining => exact ⟨by decide, by decide +kernel⟩

end Script

namespace Source

/-- The tokens of a cap. -/
def capTokens : Option Monetary → List Text
  | none => []
  | some cap => ("max" : Text) :: (cap.tokens ++ [("from" : Text)])

/-- The tokens of the limit of an overdraft. -/
def limitTokens : Option Monetary → List Text
  | none => []
  | some limit => ("up" : Text) :: ("to" : Text) :: limit.tokens

/-- The tokens of a grant. -/
def grantTokens : Overdraft → List Text
  | .refused => []
  | .granted unbounded limit =>
    grantWord :: ((if unbounded then [("unbounded" : Text)] else []) ++
      ("overdraft" : Text) :: limitTokens limit)

/-- The tokens of a source. -/
def tokens (source : Source) : List Text :=
  capTokens source.cap ++ source.account :: grantTokens source.overdraft

/-- Whether a source can be written. -/
structure IsPlain (source : Source) : Prop where
  account : Script.IsAddress source.account
  cap : ∀ cap ∈ source.cap, cap.IsPlain
  limit : ∀ limit ∈ source.overdraft.limit?, limit.IsPlain

instance (source : Source) : Decidable source.IsPlain :=
  decidable_of_iff (Script.IsAddress source.account ∧ (∀ cap ∈ source.cap, cap.IsPlain) ∧
      ∀ limit ∈ source.overdraft.limit?, limit.IsPlain)
    ⟨fun ⟨account, cap, limit⟩ => ⟨account, cap, limit⟩,
      fun ⟨account, cap, limit⟩ => ⟨account, cap, limit⟩⟩

theorem IsPlain.inner {source : Source} (plain : source.IsPlain) :
    ∀ w ∈ source.tokens, IsInner w := by
  have cap : ∀ w ∈ capTokens source.cap, IsInner w := by
    cases given : source.cap with
    | none => exact List.forall_mem_nil _
    | some cap =>
        have literal := (plain.cap cap given).inner
        exact List.forall_mem_cons.mpr ⟨clauseWords_inner _ (by decide), List.forall_mem_append.mpr
          ⟨literal, List.forall_mem_singleton.mpr (clauseWords_inner _ (by decide))⟩⟩
  have grant : ∀ w ∈ grantTokens source.overdraft, IsInner w := by
    cases given : source.overdraft with
    | refused => exact List.forall_mem_nil _
    | granted unbounded limit =>
        refine List.forall_mem_cons.mpr ⟨clauseWords_inner _ (by decide), ?_⟩
        refine List.forall_mem_append.mpr ⟨?_, List.forall_mem_cons.mpr
          ⟨clauseWords_inner _ (by decide), ?_⟩⟩
        · cases unbounded with
          | false => exact List.forall_mem_nil _
          | true => exact List.forall_mem_singleton.mpr (clauseWords_inner _ (by decide))
        · cases limit with
          | none => exact List.forall_mem_nil _
          | some limit =>
              have literal := (plain.limit limit (by rw [given]; rfl)).inner
              exact List.forall_mem_cons.mpr ⟨clauseWords_inner _ (by decide),
                List.forall_mem_cons.mpr ⟨clauseWords_inner _ (by decide), literal⟩⟩
  exact List.forall_mem_append.mpr ⟨cap, List.forall_mem_cons.mpr ⟨plain.account.inner, grant⟩⟩

/-- The ways to write sources: in a block, or a single one without a cap on its own. -/
inductive Written : List Source → List Text → Prop
  | block (sources : List Source) :
      Written sources (blockTokens (sources.flatMap tokens))
  | bare {source : Source} (uncapped : source.cap = none) : Written [source] source.tokens

theorem inner_flatMap {sources : List Source} (plain : ∀ source ∈ sources, source.IsPlain) :
    ∀ w ∈ sources.flatMap tokens, IsInner w := by
  intro w mem
  obtain ⟨source, listed, token⟩ := List.mem_flatMap.mp mem
  exact (plain source listed).inner w token

theorem Written.clause {sources : List Source} {tokens : List Text}
    (written : Written sources tokens) (plain : ∀ source ∈ sources, source.IsPlain) :
    ∀ w ∈ tokens, IsClauseToken w := by
  cases written with
  | block => exact IsClauseToken.block (inner_flatMap plain)
  | bare => exact fun w mem => Or.inl ((plain _ List.mem_cons_self).inner w mem)

end Source

namespace Destination

/-- The token of a receiver. -/
def receiverToken : Receiver → Text
  | .account address => address
  | .kept => keptWord

/-- The ways to write a destination: with or without the word behind its portion. -/
inductive ItemWritten : Destination → List Text → Prop
  | whole (receiver : Receiver) : ItemWritten ⟨receiver, none⟩ [receiverToken receiver]
  | share (portion : Text) (receiver : Receiver) :
      ItemWritten ⟨receiver, some portion⟩ [portion, receiverToken receiver]
  | shareTo (portion : Text) (receiver : Receiver) :
      ItemWritten ⟨receiver, some portion⟩ [portion, ("to" : Text), receiverToken receiver]

/-- Whether a destination can be written. -/
structure IsPlain (destination : Destination) : Prop where
  account : ∀ address, destination.receiver = .account address → Script.IsAddress address
  portion : ∀ portion ∈ destination.portion, Script.IsPortion portion

/-- The ways to write destinations one after the other. -/
inductive ItemsWritten : List Destination → List Text → Prop
  | nil : ItemsWritten [] []
  | cons {destination : Destination} {rest : List Destination} {here later : List Text}
      (first : ItemWritten destination here) (others : ItemsWritten rest later) :
      ItemsWritten (destination :: rest) (here ++ later)

theorem receiver_inner {receiver : Receiver}
    (plain : ∀ address, receiver = .account address → Script.IsAddress address) :
    IsInner (receiverToken receiver) := by
  cases receiver with
  | account address => exact (plain address rfl).inner
  | kept => exact clauseWords_inner _ (by decide)

theorem ItemsWritten.inner {destinations : List Destination} {tokens : List Text}
    (written : ItemsWritten destinations tokens) (plain : ∀ d ∈ destinations, d.IsPlain) :
    ∀ w ∈ tokens, IsInner w := by
  induction written with
  | nil => exact List.forall_mem_nil _
  | @cons destination rest here later first others ih =>
      obtain ⟨head, tail⟩ := List.forall_mem_cons.mp plain
      have receiver := receiver_inner head.account
      refine List.forall_mem_append.mpr ⟨?_, ih tail⟩
      cases first with
      | whole => exact List.forall_mem_singleton.mpr receiver
      | share portion =>
          exact List.forall_mem_cons.mpr ⟨(head.portion portion rfl).inner,
            List.forall_mem_singleton.mpr receiver⟩
      | shareTo portion =>
          exact List.forall_mem_cons.mpr ⟨(head.portion portion rfl).inner,
            List.forall_mem_cons.mpr ⟨clauseWords_inner _ (by decide),
              List.forall_mem_singleton.mpr receiver⟩⟩

/-- The ways to write destinations: in a block, or a single account on its own. -/
inductive Written : List Destination → List Text → Prop
  | block {destinations : List Destination} {items : List Text}
      (written : ItemsWritten destinations items) :
      Written destinations (blockTokens items)
  | bare (address : Text) : Written [⟨.account address, none⟩] [address]

theorem Written.clause {destinations : List Destination} {tokens : List Text}
    (written : Written destinations tokens) (plain : ∀ d ∈ destinations, d.IsPlain) :
    ∀ w ∈ tokens, IsClauseToken w := by
  cases written with
  | block written => exact IsClauseToken.block (written.inner plain)
  | bare address =>
      have spelled := (plain _ List.mem_cons_self).account address rfl
      exact List.forall_mem_singleton.mpr (Or.inl spelled.inner)

end Destination

namespace Send

/-- The tokens between the parentheses. -/
def bodyTokens (sources destinations : List Text) : List Text :=
  ("source" : Text) :: ("=" : Text) :: (sources ++
    ("destination" : Text) :: ("=" : Text) :: destinations)

/-- The ways to write a send. -/
inductive Written : Send → List Text → Prop
  | intro {send : Send} {sources destinations : List Text}
      (drawn : Source.Written send.sources sources)
      (given : Destination.Written send.destinations destinations) :
      Written send (("send" : Text) :: (send.monetary.tokens ++
        ("(" : Text) :: (bodyTokens sources destinations ++ [(")" : Text)])))

/-- Whether a send can be written. -/
structure IsPlain (send : Send) : Prop where
  monetary : send.monetary.IsPlain
  sources : ∀ source ∈ send.sources, source.IsPlain
  destinations : ∀ destination ∈ send.destinations, destination.IsPlain

end Send

end DoubleEntry
