import DoubleEntry.Asset
import DoubleEntry.Proofs.Execution.Waterfall
import DoubleEntry.Proofs.Script.Heads
import DoubleEntry.Proofs.Script.RoundTrip
import DoubleEntry.Proofs.Script.Substitution
import DoubleEntry.Proofs.Script.WellFormed
import DoubleEntry.Proofs.Text.Delimited
import DoubleEntry.Proofs.Text.Pieces

/-!
# Literals that are written and read again

A monetary literal is read back from its text, whatever odd characters its asset has, and an
asset from its own. So a monetary variable brings its asset and amount to the statement in which
it stands for the literal.
-/

namespace DoubleEntry

/-! ## Monetary literals and assets -/

namespace Monetary

theorem spelled_text (m : Monetary) : m.Spelled m.text :=
  ⟨" ", ⟨by decide, by decide⟩, by rw [text, List.append_assoc]⟩

theorem IsLegible.fits_numbers {m : Monetary} (legible : m.IsLegible) :
    ∀ n ∈ m.quantity.numbers, Decimal.fits n = true := by
  have short := legible.short
  cases asked : m.quantity with
  | everything => exact nofun
  | exactly amount =>
      rw [asked] at short
      have within := (Decimal.length_ofNat_le_iff (by decide)).mp short
      exact List.forall_mem_singleton.mpr ((Decimal.fits_natCast amount).mpr within)

theorem IsLegible.written_eq {m : Monetary} (legible : m.IsLegible) : m.written = .ok m.text :=
  Decimal.writing_of_fits legible.fits_numbers _

theorem IsLegible.ofText_text {m : Monetary} (legible : m.IsLegible) : ofText m.text = .ok m :=
  legible.ofText_spelled m.spelled_text

end Monetary

namespace Asset

theorem isPrecision_ofNat {n : Nat} (within : n < Nat.pow 10 Decimal.digitLimit) :
    isPrecision (Decimal.ofNat n) = true := by
  have digits : (Decimal.ofNat n).all isDecimalDigit = true :=
    List.all_eq_true.mpr fun c => Decimal.isDecimalDigit_of_mem_ofNat
  rw [isPrecision, digits, List.isEmpty_eq_false_iff.mpr (Decimal.ofNat_ne_nil n),
    decide_eq_true ((Decimal.length_ofNat_le_iff (by decide)).mpr within)]
  rfl

/-- An asset is either a code as a whole or a code without a slash and a precision. -/
theorem ofText_cases {t : Text} {asset : Asset} (read : ofText t = .ok asset) :
    asset = ⟨t, 0⟩ ∨
      ((.char '/' : CodePoint) ∉ asset.code ∧ asset.precision < Nat.pow 10 Decimal.digitLimit) := by
  unfold ofText at read
  split at read
  · next code precision parts =>
      split at read
      · next isPrecision_ =>
          obtain rfl := Except.ok.inj read
          rw [isPrecision, Bool.and_eq_true, decide_eq_true_eq] at isPrecision_
          refine Or.inr ⟨Text.notMem_of_mem_pieces (parts ▸ List.mem_cons_self), ?_⟩
          exact (Decimal.fits_natCast _).mp (Decimal.fits_value isPrecision_.2)
      · cases read
  · exact Or.inl (Except.ok.inj read).symm

/-- An asset that was read can be written. -/
theorem written_of_ofText {t : Text} {asset : Asset} (read : ofText t = .ok asset) :
    asset.written = .ok asset.text := by
  refine Decimal.writing_of_fits (List.forall_mem_singleton.mpr ?_) _
  obtain rfl | ⟨-, within⟩ := ofText_cases read
  · exact (Decimal.fits_natCast 0).mpr Decimal.limit_pos
  · exact (Decimal.fits_natCast _).mpr within

/-- An asset is read back from its text. -/
theorem ofText_text {t : Text} {asset : Asset} (read : ofText t = .ok asset) :
    ofText asset.text = .ok asset := by
  obtain rfl | ⟨free, within⟩ := ofText_cases read
  · exact read
  · obtain ⟨code, precision⟩ := asset
    by_cases none : precision = 0
    · subst none
      have parts : Text.pieces '/' code = [code] := Text.pieces_of_notMem free
      rw [text, if_pos rfl, ofText, parts]
    · have parts : Text.pieces '/' (code ++ "/" ++ Decimal.ofNat precision) =
          [code, Decimal.ofNat precision] := by
        rw [List.append_assoc]
        exact (Text.pieces_append free _).trans
          (congrArg (code :: ·)
            (Text.pieces_of_notMem (Decimal.notMem_ofNat (by decide +kernel) precision)))
      rw [text, if_neg none, ofText, parts]
      dsimp only
      rw [if_pos (isPrecision_ofNat within), Decimal.value_ofNat]

end Asset

/-! ## Monetary variables -/

namespace Variables

/-- Whether a variable is given an object with the asset and the amount of a literal. -/
def Gives (vars : Variables) (name : Text) (m : Monetary) : Prop :=
  ∃ fields asset amount, Entries.get? vars name = some (.object fields) ∧
    Entries.get? fields "asset" = some asset ∧ Entries.get? fields "amount" = some amount ∧
    asset.shown = m.asset ∧ Binding.amountOf amount = .ok m.quantity.amount

theorem get?_of_bind {vars : Variables} {bindings : Bindings} (bound : vars.bind = .ok bindings)
    {name : Text} {value : Data} (given : Entries.get? vars name = some value) :
    ∃ binding, bindings.get? name = some binding ∧ Binding.ofData name value = .ok binding := by
  induction vars generalizing bindings with
  | nil => cases given
  | cons entry rest ih =>
      obtain ⟨key, first⟩ := entry
      rw [bind, List.mapM_cons] at bound
      obtain ⟨⟨other, made⟩, others, here, later, rfl⟩ := cons_eq_ok.mp bound
      have paired : (fun binding => (key, binding)) <$> Binding.ofData key first = .ok (other, made) :=
        here
      obtain ⟨binding, read, same⟩ := map_eq_ok.mp paired
      obtain ⟨rfl, rfl⟩ := Prod.mk.inj same
      by_cases found : key = name
      · subst found
        rw [Entries.get?, if_pos rfl] at given
        obtain rfl := Option.some.inj given
        exact ⟨binding, by rw [Entries.get?, if_pos rfl], read⟩
      · rw [Entries.get?, if_neg found] at given
        obtain ⟨binding, held, read⟩ := ih later given
        exact ⟨binding, by rw [Entries.get?, if_neg found, held], read⟩

/-- The amount that stands for everything is written as everything is. -/
theorem spelling_monetary (m : Monetary) :
    (Binding.monetary m.asset m.quantity.amount).spelling = m.text ∧
      (Binding.monetary m.asset m.quantity.amount).numbers = m.quantity.numbers := by
  obtain ⟨asset, quantity⟩ := m
  cases quantity with
  | everything => exact ⟨rfl, rfl⟩
  | exactly amount =>
      have other : Quantity.amount (.exactly amount) ≠ Binding.everything := by
        rw [Quantity.amount, Binding.everything]
        omega
      rw [Binding.spelling, Binding.numbers, if_neg other, if_neg other]
      exact ⟨rfl, rfl⟩

/-- A variable that is given a literal is bound to what is written as the literal. -/
theorem Gives.bound {vars : Variables} {bindings : Bindings} (bound : vars.bind = .ok bindings)
    {name : Text} {m : Monetary} (gives : vars.Gives name m) :
    bindings.get? name = some (.monetary m.asset m.quantity.amount) := by
  obtain ⟨fields, asset, amount, given, hasAsset, hasAmount, shown, read⟩ := gives
  obtain ⟨binding, held, made⟩ := get?_of_bind bound given
  rw [Binding.ofData, hasAsset, hasAmount] at made
  obtain ⟨spelled, told, later⟩ := bind_eq_ok.mp made
  obtain ⟨-, rfl⟩ := Decimal.writing_eq_ok.mp told
  rw [read, shown] at later
  obtain rfl := Except.ok.inj later
  exact held

end Variables

namespace Placeholder

variable {bindings : Bindings}

theorem stopsAt_braced {stop : CodePoint} (apart : stop ∉ ("\x7b\x7d" : Text))
    (foreign : isWordChar stop = false) : braced.StopsAt stop := by
  have unlike {brace : CodePoint} (mem : brace ∈ ("\x7b\x7d" : Text)) :
      decide (stop = brace) = false := decide_eq_false fun same => apart (same ▸ mem)
  exact (Reader.stopsAt_char (unlike (by decide))).bind fun _ =>
    (Reader.stopsAt_many1 foreign).bind fun _ =>
      (Reader.stopsAt_char (unlike (by decide))).bind fun _ => Reader.stopsAt_pure _

theorem stopsAt_dollar {stop : CodePoint} (apart : stop ≠ .char '$')
    (foreign : isWordChar stop = false) : dollar.StopsAt stop :=
  (Reader.stopsAt_char (decide_eq_false apart)).bind fun _ => Reader.stopsAt_many1 foreign

/-- What stands in front of a blank is filled in without regard to what stands behind it. -/
theorem fills_blank {blank : CodePoint} (isBlank_ : isBlank blank = true) {front after : Text}
    {early late : List Int} {first second : Text}
    (here : Fills bindings (front ++ [blank]) early first)
    (later : Fills bindings after late second) :
    Fills bindings (front ++ blank :: after) (early ++ late) (first ++ second) := by
  have word := isWordChar_of_isBlank isBlank_
  have marks : ∀ c ∈ ("\x7b\x7d$" : Text), isBlank c = false := by decide
  have apart {c : CodePoint} (mem : c ∈ ("\x7b\x7d$" : Text)) : blank ≠ c :=
    ne_of_isBlank isBlank_ (marks c mem)
  have braces : blank ∉ ("\x7b\x7d" : Text) := fun mem => apart (List.mem_append_left "$" mem) rfl
  have stopsBraced : braced.StopsAt blank := stopsAt_braced braces word
  have stopsDollar : dollar.StopsAt blank := stopsAt_dollar (apart (by decide)) word
  -- The first pass keeps the blank, at which the second pass can be parted as well.
  obtain ⟨done, kept⟩ :=
    Search.splice_stop stopsBraced takesFront_braced (shown bindings) front
  have between : unbraced bindings (front ++ blank :: after) =
      done ++ blank :: unbraced bindings after := by
    rw [unbraced, Search.splice_append_stop stopsBraced takesFront_braced, kept, List.append_assoc,
      List.singleton_append, unbraced]
  have alone : unbraced bindings (front ++ [blank]) = done ++ [blank] := kept
  constructor
  · rw [filled, between, Search.splice_append_stop stopsDollar takesFront_dollar, ← alone]
    exact congrArg₂ (· ++ ·) here.text later.text
  · have split : insertions bindings (front ++ blank :: after) =
        (inserted bindings braced (front ++ [blank]) ++ inserted bindings braced after) ++
          (inserted bindings dollar (done ++ [blank]) ++
            inserted bindings dollar (unbraced bindings after)) := by
      rw [insertions, between, inserted, inserted,
        Search.hits_append_stop stopsBraced takesFront_braced,
        Search.hits_append_stop stopsDollar takesFront_dollar, List.flatMap_append,
        List.flatMap_append]
      rfl
    rw [split, ← alone]
    have swapped := (List.perm_append_comm_assoc (inserted bindings braced after)
      (inserted bindings dollar (unbraced bindings (front ++ [blank])))
      (inserted bindings dollar (unbraced bindings after))).append_left
      (inserted bindings braced (front ++ [blank]))
    have joined := here.numbers.append later.numbers
    rw [insertions, insertions, List.append_assoc] at joined
    rw [List.append_assoc]
    exact swapped.trans joined

/-- A variable that stands for the amount of a send is filled in. -/
theorem Fills.send {name after result : Text} {numbers : List Int} (named : IsName name)
    {binding : Binding} (held : bindings.get? name = some binding)
    (fills : Fills bindings after numbers result) :
    Fills bindings (("send $" : Text) ++ (name ++ ((" (" : Text) ++ after)))
      (binding.numbers ++ numbers)
      (("send " : Text) ++ (binding.spelling ++ ((" (" : Text) ++ result))) := by
  have head : ∀ c ∈ ("send " : Text), c ≠ .char '{' ∧ c ≠ .char '$' := by decide
  have tail : ∀ c ∈ (" (" : Text), c ≠ .char '{' ∧ c ≠ .char '$' := by decide
  have ends : Reader.Ends isWordChar (unbraced bindings ((" (" : Text) ++ after)) := by
    rw [unbraced, Search.splice_append fun c mem => braced_none (tail c mem).1]
    exact Reader.ends_cons (by decide +kernel) _
  have text : shown bindings (.char '$' :: name) name = binding.spelling := by rw [shown, held]
  have inside : Placeholder.numbers bindings name = binding.numbers := by
    rw [Placeholder.numbers, held]
  have filled_ := ((fills.silent tail).dollar named ends).silent head
  rw [text, inside] at filled_
  exact filled_

end Placeholder

/-! ## Statements -/

namespace Send

/-- The send of an amount and the clauses of a body. -/
def ofClauses (monetary : Monetary) (body : Text) : Except Fault Send :=
  match Search.first? Search.anywhere Source.clause body,
      Search.first? Search.anywhere Destination.clause body with
  | none, _ => .error .noSource
  | some _, none => .error .noDestination
  | some source, some destination => do
    let sources ← Source.ofBlock source.value
    return { monetary, sources, destinations := Destination.ofBlock destination.value }

theorem monetary_of_ofClauses {monetary : Monetary} {body : Text} {send : Send}
    (h : ofClauses monetary body = .ok send) : send.monetary = monetary := by
  unfold ofClauses at h
  split at h
  · cases h
  · cases h
  · obtain ⟨sources, -, made⟩ := bind_eq_ok.mp h
    rw [← Except.ok.inj made]

/-- With a literal in its text, a statement is what its clauses make of it. -/
theorem ofParts_text {m : Monetary} (legible : m.IsLegible) (body : Text) :
    ofParts ⟨m.text, body⟩ = ofClauses m body := by
  have opened : m.text.head? = some (.char '[') := rfl
  rw [ofParts, if_neg (not_not.mpr opened), legible.ofText_text]
  rfl

theorem statement_text {m : Monetary} (legible : m.IsLegible) {body : Text}
    (free : (.char ')' : CodePoint) ∉ body) (left : Text) :
    statement (("send " : Text) ++ (m.text ++ ((" (" : Text) ++ (body ++ .char ')' :: left)))) =
      some (⟨m.text, body⟩, left) := by
  have space : Text.IsGap " " := ⟨by decide, by decide⟩
  obtain ⟨inner, spelled, -, unclosed⟩ := legible.bracketed m.spelled_text
  have read := statement_read space unclosed space.blank free left
  have split : ("send " : Text) ++ (m.text ++ ((" (" : Text) ++ (body ++ .char ')' :: left))) =
      (("send" : Text) ++ ((" " : Text) ++ (Text.enclosed '[' ']' inner ++
        ((" " : Text) ++ Text.enclosed '(' ')' body)))) ++ left := by
    simp [spelled, Text.enclosed]
  rw [split, read, spelled]

/-- A text that begins with a statement is read as its parts are. -/
theorem ofText_append {w rest : Text} {parts : Parts} (some_ : w ≠ [])
    (read : statement (w ++ rest) = some (parts, rest)) : ofText (w ++ rest) = ofParts parts := by
  have found : (statements (w ++ rest)).head? = some ⟨0, w, parts⟩ :=
    Search.first?_append (Search.atWordStart isWordChar) rfl some_ read
  rw [ofText, found]

end Send

namespace Placeholder

/-- In a script a variable that is given a literal is filled in as its text, if the numbers that
other placeholders in front and behind stand for can be written. -/
theorem substitute_send {vars : Variables} {bindings : Bindings} (bound : vars.bind = .ok bindings)
    {name : Text} (named : IsName name) {m : Monetary} (legible : m.IsLegible)
    (gives : vars.Gives name m) {before : Text}
    (apart : ∀ c ∈ before.getLast?, isBlank c = true) (after : Text) :
    substitute vars (before ++ (("send $" : Text) ++ (name ++ ((" (" : Text) ++ after)))) =
      Decimal.writing (insertions bindings before ++ insertions bindings after)
        (filled bindings before ++
          (("send " : Text) ++ (m.text ++ ((" (" : Text) ++ filled bindings after)))) := by
  have sent := (fills_self bindings after).send named (gives.bound bound)
  rw [(Variables.spelling_monetary m).1, (Variables.spelling_monetary m).2] at sent
  have whole : Fills bindings (before ++ (("send $" : Text) ++ (name ++ ((" (" : Text) ++ after))))
      (insertions bindings before ++ (m.quantity.numbers ++ insertions bindings after))
      (filled bindings before ++
        (("send " : Text) ++ (m.text ++ ((" (" : Text) ++ filled bindings after)))) := by
    rcases List.eq_nil_or_concat before with rfl | ⟨first, blank, rfl⟩
    · rw [filled_empty, insertions_empty]
      exact sent
    · rw [List.concat_eq_append] at apart ⊢
      have isBlank_ : isBlank blank = true := apart blank (by simp)
      have joined := fills_blank isBlank_ (fills_self bindings (first ++ [blank])) sent
      rw [List.append_assoc first]
      exact joined
  rw [substitute, bound]
  refine whole.fill.trans (Decimal.writing_congr (fun n long => ?_) _)
  have other : n ∉ m.quantity.numbers := fun mem =>
    Decimal.not_long_of_fits legible.fits_numbers ⟨n, mem, long⟩
  simp only [List.mem_append, other, false_or]

end Placeholder

namespace Script

/-- Literals are read back from their texts. A monetary literal is, if its asset has neither
blanks nor closing brackets and its numeral is not too long; so is each that was read off any
text, and each asset that was read. A variable that is given the asset and the amount of such a
literal therefore brings it to the send in which it stands for the amount: what it is filled in
with is read as this literal, whatever the clauses are, unless another placeholder of the script
stands for a number that is too long to be written. -/
theorem literals_read_back :
    (∀ m : Monetary, m.IsLegible → m.written = .ok m.text ∧ Monetary.ofText m.text = .ok m) ∧
    (∀ (t : Text) (m : Monetary), Monetary.ofText t = .ok m →
      m.written = .ok m.text ∧ Monetary.ofText m.text = .ok m) ∧
    (∀ (t : Text) (asset : Asset), Asset.ofText t = .ok asset →
      asset.written = .ok asset.text ∧ Asset.ofText asset.text = .ok asset) ∧
    ∀ (vars : Variables) (bindings : Bindings) (name : Text) (m : Monetary),
      vars.bind = .ok bindings → Placeholder.IsName name → m.IsLegible → vars.Gives name m →
      ∀ before : Text, (∀ c ∈ before.getLast?, isBlank c = true) → ∀ after : Text,
        Placeholder.substitute vars
            (before ++ (("send $" : Text) ++ (name ++ ((" (" : Text) ++ after)))) =
          Decimal.writing
            (Placeholder.insertions bindings before ++ Placeholder.insertions bindings after)
            (Placeholder.filled bindings before ++ (("send " : Text) ++
              (m.text ++ ((" (" : Text) ++ Placeholder.filled bindings after)))) ∧
        ∀ body left : Text, Placeholder.filled bindings after = body ++ .char ')' :: left →
          (.char ')' : CodePoint) ∉ body →
          Send.statement (("send " : Text) ++
              (m.text ++ ((" (" : Text) ++ Placeholder.filled bindings after))) =
            some (⟨m.text, body⟩, left) ∧
          Send.ofParts ⟨m.text, body⟩ = Send.ofClauses m body ∧
          (before = [] → (∀ n ∈ Placeholder.insertions bindings after, Decimal.fits n = true) →
            Placeholder.substitute vars (("send $" : Text) ++
              (name ++ ((" (" : Text) ++ after))) >>= Send.ofText = Send.ofClauses m body) ∧
          ∀ send, Send.ofClauses m body = .ok send → send.monetary = m := by
  refine ⟨fun m legible => ⟨legible.written_eq, legible.ofText_text⟩, fun t m read => ?_,
    fun t asset read => ⟨Asset.written_of_ofText read, Asset.ofText_text read⟩, ?_⟩
  · have legible := Monetary.isLegible_of_ofText read
    exact ⟨legible.written_eq, legible.ofText_text⟩
  intro vars bindings name m bound named legible gives before apart after
  have filled := Placeholder.substitute_send bound named legible gives apart after
  refine ⟨filled, fun body left closed free => ?_⟩
  have read := Send.statement_text legible free left
  rw [← closed] at read
  refine ⟨read, Send.ofParts_text legible body, ?_, fun send => Send.monetary_of_ofClauses⟩
  rintro rfl fit
  rw [Placeholder.insertions_empty, Placeholder.filled_empty, List.nil_append, List.nil_append,
    List.nil_append, Decimal.writing_of_fits fit] at filled
  obtain ⟨w, some_, split⟩ := Send.statement_takesFront read
  rw [split] at read filled
  rw [filled, ← Send.ofParts_text legible]
  exact Send.ofText_append some_ read

/-- An asset with a bracket and a slash, a numeral and a precision with zeros in front, and seven
cents that a variable brings. -/
theorem odd_literals_read_back :
    Monetary.ofText (Monetary.text ⟨"[A/x", .exactly 5⟩) = .ok ⟨"[A/x", .exactly 5⟩ ∧
    Monetary.ofText (Monetary.text ⟨"COIN", .exactly 5⟩) = .ok ⟨"COIN", .exactly 5⟩ ∧
    Asset.ofText (Asset.text ⟨"USD", 7⟩) = .ok ⟨"USD", 7⟩ ∧
    Placeholder.substitute
        [("price", .object [("asset", .text "EUR/2"), ("amount", .int 7)])] "send $price ( )" >>=
      Send.ofText = Send.ofClauses ⟨"EUR/2", .exactly 7⟩ " " := by
  obtain ⟨written, readAgain, assets, variables_⟩ := literals_read_back
  let price : Variables := [("price", .object [("asset", .text "EUR/2"), ("amount", .int 7)])]
  have odd : Monetary.IsLegible ⟨"[A/x", .exactly 5⟩ :=
    ⟨by decide, by decide +kernel, by decide +kernel⟩
  have cents : Monetary.IsLegible ⟨"EUR/2", .exactly 7⟩ :=
    ⟨by decide, by decide +kernel, by decide +kernel⟩
  have named : Placeholder.IsName "price" := ⟨by decide, by decide +kernel⟩
  have bound : price.bind = .ok [("price", .monetary "EUR/2" 7)] :=
    toOption_eq_some.mp (by decide +kernel)
  have gives : price.Gives "price" ⟨"EUR/2", .exactly 7⟩ := by
    have other : ("asset" : Text) ≠ "amount" := by decide +kernel
    refine ⟨[("asset", .text "EUR/2"), ("amount", .int 7)], .text "EUR/2", .int 7, ?_, ?_, ?_, rfl, rfl⟩
    · rw [Entries.get?, if_pos rfl]
    · rw [Entries.get?, if_pos rfl]
    · rw [Entries.get?, if_neg other, Entries.get?, if_pos rfl]
  refine ⟨(written _ odd).2, (readAgain "of [COIN  005]" _ (toOption_eq_some.mp (by decide +kernel))).2,
    (assets "USD/007" _ (toOption_eq_some.mp (by decide +kernel))).2, ?_⟩
  have alone : ∀ c ∈ ([] : Text).getLast?, isBlank c = true := by
    rintro c ⟨⟩
  have filled := (variables_ price _ "price" _ bound named cents gives [] alone " )").2
  have closed : Placeholder.filled [("price", .monetary "EUR/2" 7)] " )" =
      (" " : Text) ++ [.char ')'] := by decide +kernel
  have plain : ∀ n ∈ Placeholder.insertions [("price", .monetary "EUR/2" 7)] " )",
      Decimal.fits n = true := by
    have none_ : Placeholder.insertions [("price", .monetary "EUR/2" 7)] " )" = [] := by
      decide +kernel
    rw [none_]
    exact List.forall_mem_nil _
  exact (filled " " [] closed (by decide)).2.2.1 rfl plain

end Script

end DoubleEntry
