import DoubleEntry.Proofs.Except
import DoubleEntry.Proofs.Faults
import DoubleEntry.Proofs.Numerals
import DoubleEntry.Proofs.Script.Spelling
import DoubleEntry.Proofs.Text.Reader

/-!
# Sends that were read

A literal that was read off a text can be told from its own text again. A send that was read has
an asset that is not blank, and its portions are percentages, fractions or the word for what
remains.
-/

namespace DoubleEntry

/-! ## Portions -/

namespace Script

theorem percentage_eq_some {t portion rest : Text} (h : percentage t = some (portion, rest)) :
    IsPortion portion := by
  obtain ⟨number, behind, digits, marked⟩ := Reader.bind_eq_some.mp h
  obtain ⟨mark, after, -, last⟩ := Reader.bind_eq_some.mp marked
  obtain ⟨rfl, -⟩ := Prod.mk.inj (Option.some.inj last)
  obtain ⟨nonempty, all⟩ := Reader.many1_all digits
  exact .percentage nonempty fun c mem => by simpa using all c mem

theorem fraction_eq_some {t portion rest : Text} (h : fraction t = some (portion, rest)) :
    IsPortion portion := by
  obtain ⟨numerator, behind, digits, divided⟩ := Reader.bind_eq_some.mp h
  obtain ⟨slash, below, -, later⟩ := Reader.bind_eq_some.mp divided
  obtain ⟨denominator, after, others, last⟩ := Reader.bind_eq_some.mp later
  obtain ⟨rfl, -⟩ := Prod.mk.inj (Option.some.inj last)
  obtain ⟨above, digits⟩ := Reader.many1_all digits
  obtain ⟨beneath, others⟩ := Reader.many1_all others
  exact .fraction above digits beneath others

/-- What is read as a portion is one. -/
theorem isPortion_of_read {t portion rest : Text} (h : Script.portion t = some (portion, rest)) :
    IsPortion portion := by
  rcases Reader.or_eq_some h with percent | others
  · exact percentage_eq_some percent
  · rcases Reader.or_eq_some others with ratio | remaining
    · exact fraction_eq_some ratio
    · obtain ⟨-, after, -, last⟩ := Reader.bind_eq_some.mp remaining
      obtain ⟨rfl, -⟩ := Prod.mk.inj (Option.some.inj last)
      exact .remaining

end Script

namespace Destination

theorem isPortion_of_item {t rest : Text} {destination : Destination}
    (h : item t = some (destination, rest)) :
    ∀ portion ∈ destination.portion, Script.IsPortion portion := by
  obtain ⟨share, behind, shared, later⟩ := Reader.bind_eq_some.mp h
  obtain ⟨receiver, after, -, last⟩ := Reader.bind_eq_some.mp later
  obtain ⟨rfl, -⟩ := Prod.mk.inj (Option.some.inj last)
  intro portion mem
  obtain rfl : share = some portion := mem
  obtain ⟨spelled, gap, named, bound⟩ := Reader.bind_eq_some.mp (Reader.optional_eq_some shared)
  obtain ⟨-, front, -, between⟩ := Reader.bind_eq_some.mp bound
  obtain ⟨-, back, -, last⟩ := Reader.bind_eq_some.mp between
  obtain ⟨rfl, -⟩ := Prod.mk.inj (Option.some.inj last)
  exact Script.isPortion_of_read named

theorem isPortion_of_ofBlock {t portion : Text} {destination : Destination}
    (mem : destination ∈ ofBlock t) (given : portion ∈ destination.portion) :
    Script.IsPortion portion := by
  unfold ofBlock at mem
  dsimp only at mem
  split at mem
  · obtain ⟨found, listed, rfl⟩ := List.mem_map.mp mem
    obtain ⟨front, rest, read⟩ := Search.exists_read listed
    exact isPortion_of_item read portion given
  · obtain rfl := List.mem_singleton.mp mem
    cases given

end Destination

/-! ## Literals -/

namespace Monetary

theorem assetChar_of_literal {t rest asset : Text} {amount : Option Text}
    (h : literal t = some ((asset, amount), rest)) :
    asset ≠ [] ∧ ∀ c ∈ asset, isBlank c = false ∧ c ≠ ']' := by
  obtain ⟨opening, bracketed, -, named⟩ := Reader.bind_eq_some.mp h
  obtain ⟨name, behind, read, later⟩ := Reader.bind_eq_some.mp named
  obtain ⟨-, apart, -, numbered⟩ := Reader.bind_eq_some.mp later
  obtain ⟨numeral, closed, -, ended⟩ := Reader.bind_eq_some.mp numbered
  obtain ⟨closing, after, -, last⟩ := Reader.bind_eq_some.mp ended
  obtain ⟨parts, -⟩ := Prod.mk.inj (Option.some.inj last)
  obtain rfl := (Prod.mk.inj parts).1
  obtain ⟨nonempty, solid⟩ := Reader.many1_all read
  refine ⟨nonempty, fun c mem => ?_⟩
  have here := solid c mem
  rw [isAssetChar, Bool.and_eq_true, Bool.not_eq_true', decide_eq_true_eq] at here
  exact here

/-- A literal that was read off a text can be told from its own. -/
theorem isLegible_of_ofText {t : Text} {m : Monetary} (h : ofText t = .ok m) : m.IsLegible := by
  unfold ofText at h
  split at h
  · next found first =>
      obtain ⟨front, rest, read⟩ := Search.exists_read (List.mem_of_mem_head? first)
      obtain ⟨named, asset⟩ := assetChar_of_literal read
      unfold ofParts at h
      split at h
      · obtain rfl := Except.ok.inj h
        have short : Quantity.everything.text.length ≤ Decimal.digitLimit := by decide
        exact ⟨named, asset, short⟩
      · next digits _ =>
          split at h
          · next short =>
              obtain rfl := Except.ok.inj h
              have within := (Decimal.fits_natCast _).mp (Decimal.fits_value short)
              exact ⟨named, asset, (Decimal.length_ofNat_le_iff (by decide)).mpr within⟩
          · cases h
  · cases h

/-- The asset of a literal that was read is not blank. -/
theorem asset_of_ofText {t : Text} {m : Monetary} (h : ofText t = .ok m) :
    m.asset.all isBlank = false := by
  have legible := isLegible_of_ofText h
  obtain ⟨c, others, spelled⟩ := List.exists_cons_of_ne_nil legible.named
  have solid := (legible.asset c (spelled ▸ List.mem_cons_self)).1
  rw [spelled, List.all_cons, solid, Bool.false_and]

end Monetary

/-! ## Sends -/

namespace Send

/-- What a statement was read as comes from its literal and from its first clauses. -/
theorem clauses_of_ofParts {parts : Parts} {send : Send} (h : ofParts parts = .ok send) :
    Monetary.ofText parts.amount = .ok send.monetary ∧ ∃ source destination,
      Search.first? Search.anywhere Source.clause parts.body = some source ∧
        Search.first? Search.anywhere Destination.clause parts.body = some destination ∧
          Source.ofBlock source.value = .ok send.sources ∧
            send.destinations = Destination.ofBlock destination.value := by
  unfold ofParts at h
  dsimp only at h
  by_cases opened : parts.amount.head? = some (.char '[')
  · rw [if_neg (not_not.mpr opened)] at h
    obtain ⟨monetary, literal, later⟩ := bind_eq_ok.mp h
    split at later
    · cases later
    · cases later
    · next source destination drawn given =>
        obtain ⟨sources, made, last⟩ := bind_eq_ok.mp later
        obtain rfl := Except.ok.inj last
        exact ⟨literal, source, destination, drawn, given, made, rfl⟩
  · rw [if_pos opened] at h
    cases h

/-- Whether the asset of a send is not blank and its portions are such. -/
structure IsWellFormed (send : Send) : Prop where
  asset : send.monetary.asset.all isBlank = false
  portions : ∀ destination ∈ send.destinations, ∀ portion ∈ destination.portion,
    Script.IsPortion portion

theorem isWellFormed_ofParts {parts : Parts} {send : Send} (h : ofParts parts = .ok send) :
    send.IsWellFormed := by
  obtain ⟨literal, source, destination, -, -, -, given⟩ := clauses_of_ofParts h
  refine ⟨Monetary.asset_of_ofText literal, fun taker mem portion shared => ?_⟩
  rw [given] at mem
  exact Destination.isPortion_of_ofBlock mem shared

/-- A send that was read is well-formed. -/
theorem isWellFormed_ofText {statement : Text} {send : Send} (h : ofText statement = .ok send) :
    send.IsWellFormed := by
  unfold ofText at h
  split at h
  · exact isWellFormed_ofParts h
  · cases h

end Send

end DoubleEntry
