import DoubleEntry.Proofs.Script.Fragments
import DoubleEntry.Proofs.Script.WellFormed
import DoubleEntry.Proofs.Text.Pieces
import DoubleEntry.Script.Portion
import Mathlib.Data.List.TakeWhile
import Mathlib.Data.Rat.Floor
import Mathlib.Tactic.FieldSimp

/-!
# What portions are worth

A percentage is a decimal number of hundredths, a fraction the quotient of two whole numbers.
What is paid out for a portion is its exact part of a total, rounded down. A portion is
refused just when its digits make no number, when its denominator is zero, or when a row of
its digits is too long.
-/

namespace DoubleEntry

/-! ## Decimal numbers -/

namespace Decimal

/-- What stands in front of the point. -/
def wholePart (number : Text) : Text := number.takeWhile fun c : CodePoint => c ≠ '.'

/-- What stands behind the point, if there is one. -/
def fractionalPart (number : Text) : Text := (number.dropWhile fun c : CodePoint => c ≠ '.').tail

/-- The exact value of digits with a point among them: each digit behind the point counts a
tenth of the one before. -/
def exact (number : Text) : ℚ :=
  value (wholePart number) + value (fractionalPart number) / 10 ^ (fractionalPart number).length

/-- Whether digits and points make a number that is not too long: there is a digit, at most
one point, and not too many digits in front of it or behind it. -/
structure IsNumber (number : Text) : Prop where
  digit : ∃ c ∈ number, isDecimalDigit c = true
  point : number.count (.char '.') ≤ 1
  whole : (wholePart number).length ≤ digitLimit
  fractional : (fractionalPart number).length ≤ digitLimit

instance (number : Text) : Decidable (IsNumber number) :=
  decidable_of_iff ((∃ c ∈ number, isDecimalDigit c = true) ∧ number.count (.char '.') ≤ 1 ∧
      (wholePart number).length ≤ digitLimit ∧ (fractionalPart number).length ≤ digitLimit)
    ⟨fun ⟨digit, point, whole, fractional⟩ => ⟨digit, point, whole, fractional⟩,
      fun ⟨digit, point, whole, fractional⟩ => ⟨digit, point, whole, fractional⟩⟩

/-- Digits with no point, one point or several points among them. -/
inductive Shape : Text → Prop
  | whole {row : Text} (nonempty : row ≠ []) (digits : ∀ c ∈ row, isDecimalDigit c = true) :
      Shape row
  | point {front behind : Text} (digits : ∀ c ∈ front, isDecimalDigit c = true)
      (others : ∀ c ∈ behind, isDecimalDigit c = true) : Shape (front ++ .char '.' :: behind)
  | points {front behind rest : Text} (digits : ∀ c ∈ front, isDecimalDigit c = true)
      (others : ∀ c ∈ behind, isDecimalDigit c = true) :
      Shape (front ++ .char '.' :: (behind ++ .char '.' :: rest))

theorem point_not_digit : isDecimalDigit '.' = false := by decide +kernel

theorem ne_point_of_digit {c : CodePoint} (digit : isDecimalDigit c = true) : c ≠ '.' := by
  rintro rfl
  simp [point_not_digit] at digit

/-- Digits and points begin with a row of digits, and a point comes next if anything does. -/
theorem row_cases {number : Text} (chars : ∀ c ∈ number, isDecimalDigit c = true ∨ c = '.') :
    (∀ c ∈ number, isDecimalDigit c = true) ∨
      ∃ front behind, number = front ++ .char '.' :: behind ∧
        (∀ c ∈ front, isDecimalDigit c = true) ∧ ∀ c ∈ behind, isDecimalDigit c = true ∨ c = '.' := by
  induction number with
  | nil => exact Or.inl nofun
  | cons first rest ih =>
      obtain ⟨here, later⟩ := List.forall_mem_cons.mp chars
      rcases here with digit | rfl
      · rcases ih later with all | ⟨front, behind, rfl, digits, others⟩
        · exact Or.inl (List.forall_mem_cons.mpr ⟨digit, all⟩)
        · exact Or.inr ⟨first :: front, behind, rfl, List.forall_mem_cons.mpr ⟨digit, digits⟩, others⟩
      · exact Or.inr ⟨[], rest, rfl, nofun, later⟩

theorem shape {number : Text} (nonempty : number ≠ [])
    (chars : ∀ c ∈ number, isDecimalDigit c = true ∨ c = '.') : Shape number := by
  rcases row_cases chars with all | ⟨front, behind, rfl, digits, later⟩
  · exact .whole nonempty all
  · rcases row_cases later with others | ⟨middle, rest, rfl, others, -⟩
    · exact .point digits others
    · exact .points digits others

theorem not_isNumber_points (front behind rest : Text) :
    ¬IsNumber (front ++ .char '.' :: (behind ++ .char '.' :: rest)) := by
  intro number
  have most := number.point
  rw [List.count_append, List.count_cons_self, List.count_append, List.count_cons_self] at most
  omega

section Parts

variable {front : Text} (digits : ∀ c ∈ front, isDecimalDigit c = true)
include digits

theorem passed (c : CodePoint) (mem : c ∈ front) : decide (c ≠ '.') = true :=
  decide_eq_true (ne_point_of_digit (digits c mem))

theorem wholePart_digits : wholePart front = front :=
  List.takeWhile_eq_self_iff.mpr (passed digits)

theorem fractionalPart_digits : fractionalPart front = [] := by
  rw [fractionalPart, List.dropWhile_eq_nil_iff.mpr (passed digits), List.tail_nil]

theorem wholePart_point (behind : Text) : wholePart (front ++ .char '.' :: behind) = front := by
  rw [wholePart, List.takeWhile_append_of_pos (passed digits)]
  simp

theorem fractionalPart_point (behind : Text) :
    fractionalPart (front ++ .char '.' :: behind) = behind := by
  rw [fractionalPart, List.dropWhile_append_of_pos (passed digits)]
  simp

theorem count_digits : front.count (.char '.') = 0 :=
  List.count_eq_zero_of_not_mem fun mem => ne_point_of_digit (digits _ mem) rfl

theorem isNumber_digits (nonempty : front ≠ []) : IsNumber front ↔ front.length ≤ digitLimit := by
  constructor
  · intro number
    have short := number.whole
    rwa [wholePart_digits digits] at short
  · intro short
    obtain ⟨first, mem⟩ := List.exists_mem_of_ne_nil front nonempty
    refine ⟨⟨first, mem, digits first mem⟩, ?_, ?_, ?_⟩
    · rw [count_digits digits]
      exact Nat.zero_le 1
    · rwa [wholePart_digits digits]
    · rw [fractionalPart_digits digits]
      exact Nat.zero_le _

theorem isNumber_point {behind : Text} (others : ∀ c ∈ behind, isDecimalDigit c = true) :
    IsNumber (front ++ .char '.' :: behind) ↔
      (front ≠ [] ∨ behind ≠ []) ∧ front.length ≤ digitLimit ∧ behind.length ≤ digitLimit := by
  constructor
  · rintro ⟨⟨c, mem, digit⟩, -, whole, fractional⟩
    rw [wholePart_point digits] at whole
    rw [fractionalPart_point digits] at fractional
    refine ⟨?_, whole, fractional⟩
    rcases List.mem_append.mp mem with inside | later
    · exact Or.inl (List.ne_nil_of_mem inside)
    · rcases List.mem_cons.mp later with rfl | inside
      · simp [point_not_digit] at digit
      · exact Or.inr (List.ne_nil_of_mem inside)
  · rintro ⟨nonempty, whole, fractional⟩
    refine ⟨?_, ?_, ?_, ?_⟩
    · rcases nonempty with some_ | some_
      · obtain ⟨first, mem⟩ := List.exists_mem_of_ne_nil front some_
        exact ⟨first, by simp [mem], digits first mem⟩
      · obtain ⟨first, mem⟩ := List.exists_mem_of_ne_nil behind some_
        exact ⟨first, by simp [mem], others first mem⟩
    · simp [count_digits digits, count_digits others]
    · rwa [wholePart_point digits]
    · rwa [fractionalPart_point digits]

theorem exact_digits : exact front = value front := by
  simp [exact, wholePart_digits digits, fractionalPart_digits digits, value]

theorem exact_point (behind : Text) :
    exact (front ++ .char '.' :: behind) = value front + value behind / 10 ^ behind.length := by
  rw [exact, wholePart_point digits, fractionalPart_point digits]

end Parts

end Decimal

/-! ## Reading ratios -/

theorem splitSign_digit {t : Text} (minus : (.char '-' : CodePoint) ∉ t)
    (plus : (.char '+' : CodePoint) ∉ t) : splitSign t = (false, t) := by
  unfold splitSign
  split
  · simp at minus
  · simp at plus
  · rfl

namespace Ratio

/-- The exact value of a ratio. -/
def exact (ratio : Ratio) : ℚ := ratio.numerator / ratio.denominator

theorem floorOf_eq (ratio : Ratio) (total : Int) :
    ratio.floorOf total = ⌊(total : ℚ) * ratio.exact⌋ := by
  have product : (total : ℚ) * ratio.exact =
      ((total * ratio.numerator : Int) : ℚ) / (ratio.denominator : Nat) := by
    rw [exact, Int.cast_mul, mul_div_assoc]
  rw [product, Rat.floor_intCast_div_natCast, floorOf]

theorem exact_percent (ratio : Ratio) : ratio.percent.exact = ratio.exact / 100 := by
  simp [exact, percent, div_div]

section Digits

variable {row : Text} (digits : ∀ c ∈ row, isDecimalDigit c = true)
include digits

theorem ungrouped_digits : ungrouped row = row := by
  apply List.filter_eq_self.mpr
  intro c mem
  have underscore : isDecimalDigit '_' = false := by decide +kernel
  apply decide_eq_true
  rintro rfl
  have digit := digits _ mem
  rw [underscore] at digit
  cases digit

theorem isGrouping_digits (nonempty : row ≠ []) : isGrouping row = true := by
  have ungrouped : (.char '_' : CodePoint) ∉ row := by
    intro mem
    have kept := ungrouped_digits digits ▸ mem
    simp [DoubleEntry.ungrouped] at kept
  simp [isGrouping, Text.pieces_of_notMem ungrouped, nonempty]

theorem all_isGroupedDigit : ∀ c ∈ row, isGroupedDigit c = true := by
  intro c mem
  simp [isGroupedDigit, digits c mem]

/-- A row of digits is read as a number unless it is too long. -/
theorem row?_digits (nonempty : row ≠ []) :
    row? row = if row.length ≤ Decimal.digitLimit then some (Decimal.value row) else none := by
  have all : row.all isGroupedDigit = true := List.all_eq_true.mpr (all_isGroupedDigit digits)
  simp [row?, all, isGrouping_digits digits nonempty, ungrouped_digits digits]

theorem rowOrZero?_digits :
    rowOrZero? row = if row.length ≤ Decimal.digitLimit then some (Decimal.value row) else none := by
  cases row with
  | nil => rfl
  | cons first rest =>
      rw [← row?_digits digits (List.cons_ne_nil first rest)]
      rfl

theorem takeWhile_grouped {rest : Text} (ends : Reader.Ends isGroupedDigit rest) :
    (row ++ rest).takeWhile isGroupedDigit = row ∧ (row ++ rest).dropWhile isGroupedDigit = rest := by
  have all := all_isGroupedDigit digits
  rw [List.takeWhile_append_of_pos all, List.dropWhile_append_of_pos all]
  cases rest with
  | nil => simp
  | cons first others => simp [ends first rfl]

/-- Digits alone are a whole number. -/
theorem unsigned?_row (nonempty : row ≠ []) :
    unsigned? row =
      if row.length ≤ Decimal.digitLimit then some (Decimal.value row, 1) else none := by
  obtain ⟨taken, left⟩ := takeWhile_grouped digits (Reader.ends_nil isGroupedDigit)
  rw [List.append_nil] at taken left
  simp only [unsigned?, taken, left, row?_digits digits nonempty]
  by_cases short : row.length ≤ Decimal.digitLimit
  · simp [short, exponent?]
  · simp [short]

/-- Digits on both sides of a slash are a numerator and a denominator. -/
theorem unsigned?_quotient (above : row ≠ []) {below : Text} (nonempty : below ≠ [])
    (others : ∀ c ∈ below, isDecimalDigit c = true) :
    unsigned? (row ++ .char '/' :: below) =
      if row.length ≤ Decimal.digitLimit ∧ below.length ≤ Decimal.digitLimit
      then some (Decimal.value row, Decimal.value below) else none := by
  have slash : isGroupedDigit '/' = false := by decide +kernel
  obtain ⟨taken, left⟩ := takeWhile_grouped digits (Reader.ends_cons slash below)
  simp only [unsigned?, taken, left, row?_digits digits above, row?_digits others nonempty]
  by_cases short : row.length ≤ Decimal.digitLimit
  · by_cases also : below.length ≤ Decimal.digitLimit <;> simp [short, also]
  · simp [short]

/-- Digits with a point among them are the digits without it over a power of ten. -/
theorem unsigned?_point {behind : Text} (others : ∀ c ∈ behind, isDecimalDigit c = true) :
    unsigned? (row ++ .char '.' :: behind) =
      if (row ≠ [] ∨ behind ≠ []) ∧
        row.length ≤ Decimal.digitLimit ∧ behind.length ≤ Decimal.digitLimit
      then some (Decimal.value row * 10 ^ behind.length + Decimal.value behind, 10 ^ behind.length)
      else none := by
  have point : isGroupedDigit '.' = false := by decide +kernel
  obtain ⟨taken, left⟩ := takeWhile_grouped digits (Reader.ends_cons point behind)
  obtain ⟨fraction, nothing⟩ := takeWhile_grouped others (Reader.ends_nil isGroupedDigit)
  rw [List.append_nil] at fraction nothing
  simp only [unsigned?, taken, left, fraction, nothing, rowOrZero?_digits digits,
    rowOrZero?_digits others, ungrouped_digits others]
  by_cases empty : row = [] ∧ behind = []
  · simp [empty]
  · by_cases short : row.length ≤ Decimal.digitLimit
    · by_cases also : behind.length ≤ Decimal.digitLimit <;> simp [empty, short, also, exponent?]
    · simp [empty, short]

/-- Two points do not stand in one number. -/
theorem unsigned?_points {behind : Text} (others : ∀ c ∈ behind, isDecimalDigit c = true)
    (rest : Text) : unsigned? (row ++ .char '.' :: (behind ++ .char '.' :: rest)) = none := by
  have point : isGroupedDigit '.' = false := by decide +kernel
  obtain ⟨taken, left⟩ :=
    takeWhile_grouped digits (Reader.ends_cons point (behind ++ .char '.' :: rest))
  obtain ⟨fraction, more⟩ := takeWhile_grouped others (Reader.ends_cons point rest)
  have mark : exponent? (.char '.' :: rest) = none := by simp [exponent?]
  simp only [unsigned?, taken, left, fraction, more, mark]
  simp

end Digits

/-- A text of digits, points and slashes has neither blanks nor a sign around its number. -/
theorem ofText?_plain {t : Text}
    (plain : ∀ c ∈ t, isDecimalDigit c = true ∨ c = '.' ∨ c = '/') :
    ofText? t = (unsigned? t).bind fun parts => make? parts.1 parts.2 := by
  have marks : ∀ c ∈ ("./" : Text), isBlank c = false := by decide
  have signs : ∀ c ∈ ("-+" : Text), isDecimalDigit c = false ∧ c ∉ ("./" : Text) := by
    decide +kernel
  have solid : ∀ c ∈ t, isBlank c = false := by
    intro c mem
    rcases plain c mem with digit | rfl | rfl
    · exact isBlank_of_isDecimalDigit digit
    · decide
    · decide
  have unsigned : ∀ c ∈ ("-+" : Text), c ∉ t := by
    intro c sign mem
    obtain ⟨other, unlike⟩ := signs c sign
    rcases plain c mem with digit | rfl | rfl
    · simp [other] at digit
    · simp at unlike
    · simp at unlike
  have positive : splitSign t = (false, t) :=
    splitSign_digit (unsigned _ (by simp)) (unsigned _ (by simp))
  simp only [ofText?, Text.strip_solid solid, positive]
  rfl

theorem map_exact_make? (numerator : Int) (denominator : Nat) :
    (make? numerator denominator).map exact =
      if denominator ≠ 0 then some (numerator / denominator : ℚ) else none := by
  by_cases zero : denominator = 0
  · simp [make?, zero]
  · simp [make?, zero, Nat.pos_of_ne_zero zero, exact]

/-- Digits and points are read as their exact value if they make a number. -/
theorem map_exact_number {number : Text} (nonempty : number ≠ [])
    (chars : ∀ c ∈ number, isDecimalDigit c = true ∨ c = '.') :
    (ofText? number).map exact =
      if Decimal.IsNumber number then some (Decimal.exact number) else none := by
  have plain : ∀ c ∈ number, isDecimalDigit c = true ∨ c = '.' ∨ c = '/' :=
    fun c mem => (chars c mem).imp_right Or.inl
  rw [ofText?_plain plain]
  cases Decimal.shape nonempty chars with
  | whole _ digits =>
      rw [unsigned?_row digits nonempty]
      by_cases short : number.length ≤ Decimal.digitLimit
      · simp [short, Decimal.isNumber_digits digits nonempty, map_exact_make?,
          Decimal.exact_digits digits]
      · simp [short, Decimal.isNumber_digits digits nonempty]
  | @point front behind digits others =>
      rw [unsigned?_point digits others]
      by_cases proper : (front ≠ [] ∨ behind ≠ []) ∧
          front.length ≤ Decimal.digitLimit ∧ behind.length ≤ Decimal.digitLimit
      · have value : ((Decimal.value front * 10 ^ behind.length + Decimal.value behind : Nat) : ℚ) /
            (10 ^ behind.length : Nat) = Decimal.exact (front ++ .char '.' :: behind) := by
          rw [Decimal.exact_point digits]
          push_cast
          field_simp
        rw [if_pos proper, if_pos ((Decimal.isNumber_point digits others).mpr proper), ← value]
        simp [map_exact_make?]
      · rw [if_neg proper, if_neg (mt (Decimal.isNumber_point digits others).mp proper)]
        rfl
  | @points front behind rest digits others =>
      rw [unsigned?_points digits others, if_neg (Decimal.not_isNumber_points front behind rest)]
      rfl

/-- Two rows of digits with a slash between them are read as their quotient. -/
theorem map_exact_quotient {above below : Text} (nonempty : above ≠ [])
    (digits : ∀ c ∈ above, isDecimalDigit c = true) (some_ : below ≠ [])
    (others : ∀ c ∈ below, isDecimalDigit c = true) :
    (ofText? (above ++ .char '/' :: below)).map exact =
      if above.length ≤ Decimal.digitLimit ∧ below.length ≤ Decimal.digitLimit ∧
        Decimal.value below ≠ 0
      then some (Decimal.value above / Decimal.value below : ℚ) else none := by
  have plain : ∀ c ∈ above ++ .char '/' :: below,
      isDecimalDigit c = true ∨ c = '.' ∨ c = '/' := by
    refine List.forall_mem_append.mpr ⟨fun c mem => Or.inl (digits c mem), ?_⟩
    exact List.forall_mem_cons.mpr ⟨Or.inr (Or.inr rfl), fun c mem => Or.inl (others c mem)⟩
  rw [ofText?_plain plain, unsigned?_quotient digits nonempty some_ others]
  by_cases short : above.length ≤ Decimal.digitLimit ∧ below.length ≤ Decimal.digitLimit
  · simp [short, map_exact_make?]
  · rw [if_neg short, if_neg (fun proper => short ⟨proper.1, proper.2.1⟩)]
    rfl

end Ratio

/-! ## Parts of a total -/

namespace Portion

theorem percentage_ne_remaining (number : Text) : number ++ "%" ≠ Script.remainingWord := by
  intro same
  have marked : (number ++ ("%" : Text)).getLast? = some (.char '%') := by simp
  rw [same] at marked
  exact absurd marked (by decide)

theorem fraction_ne_remaining (above below : Text) :
    above ++ "/" ++ below ≠ Script.remainingWord := by
  intro same
  have divided : (.char '/' : CodePoint) ∈ above ++ ("/" : Text) ++ below := by simp
  rw [same] at divided
  exact absurd divided (by decide)

/-- For a share that is read off a portion its exact part of the total is paid, rounded down. -/
theorem amountOf_read {portion : Text} {read : Option Ratio} {proper : Prop} [Decidable proper]
    {worth : ℚ}
    (named : share portion = match read with
      | some ratio => .ok (some ratio)
      | none => .error (.badPortion portion))
    (value : read.map Ratio.exact = if proper then some worth else none) (total : Int) :
    amountOf portion total =
      if proper then .ok ⌊(total : ℚ) * worth⌋ else .error (.badPortion portion) := by
  rw [amountOf, named]
  cases read with
  | none =>
      have not : ¬proper := by
        intro holds
        simp [holds] at value
      rw [if_neg not]
      rfl
  | some ratio =>
      have holds : proper := by
        by_contra not
        simp [not] at value
      rw [if_pos holds, Option.map_some, Option.some_inj] at value
      rw [if_pos holds, ← value, ← Ratio.floorOf_eq]
      rfl

/-- A percentage is worth its number of hundredths. -/
theorem amountOf_percentage {number : Text} (nonempty : number ≠ [])
    (chars : ∀ c ∈ number, isDecimalDigit c = true ∨ c = '.') (total : Int) :
    amountOf (number ++ "%") total =
      if Decimal.IsNumber number then .ok ⌊(total : ℚ) * (Decimal.exact number / 100)⌋
      else .error (.badPortion (number ++ "%")) := by
  have marked : (number ++ ("%" : Text)).getLast? = some (.char '%') := by simp
  have body : (number ++ ("%" : Text)).dropLast = number := by simp
  have named : share (number ++ "%") = match (Ratio.ofText? number).map Ratio.percent with
      | some ratio => .ok (some ratio)
      | none => .error (.badPortion (number ++ "%")) := by
    rw [share, if_neg (percentage_ne_remaining number), if_pos marked, body]
    cases Ratio.ofText? number <;> rfl
  have value : ((Ratio.ofText? number).map Ratio.percent).map Ratio.exact =
      if Decimal.IsNumber number then some (Decimal.exact number / 100) else none := by
    have hundredths : Ratio.exact ∘ Ratio.percent = (· / 100) ∘ Ratio.exact :=
      funext Ratio.exact_percent
    rw [Option.map_map, hundredths, ← Option.map_map, Ratio.map_exact_number nonempty chars]
    split <;> rfl
  exact amountOf_read named value total

/-- A fraction is worth the quotient of its numbers. -/
theorem amountOf_fraction {above below : Text} (nonempty : above ≠ [])
    (digits : ∀ c ∈ above, isDecimalDigit c = true) (some_ : below ≠ [])
    (others : ∀ c ∈ below, isDecimalDigit c = true) (total : Int) :
    amountOf (above ++ "/" ++ below) total =
      if above.length ≤ Decimal.digitLimit ∧ below.length ≤ Decimal.digitLimit ∧
        Decimal.value below ≠ 0
      then .ok ⌊(total : ℚ) * (Decimal.value above / Decimal.value below)⌋
      else .error (.badPortion (above ++ "/" ++ below)) := by
  have spelled : above ++ ("/" : Text) ++ below = above ++ .char '/' :: below := by simp
  have unmarked : (above ++ ("/" : Text) ++ below).getLast? ≠ some (.char '%') := by
    intro marked
    rw [List.getLast?_append_of_ne_nil _ some_] at marked
    exact absurd (others _ (List.mem_of_getLast? marked)) (by decide +kernel)
  have divided : (above ++ ("/" : Text) ++ below).contains '/' = true := by simp
  have value := Ratio.map_exact_quotient nonempty digits some_ others
  rw [← spelled] at value
  refine amountOf_read ?_ value total
  refine (if_neg (fraction_ne_remaining above below)).trans ((if_neg unmarked).trans ?_)
  refine (if_pos divided).trans ?_
  cases Ratio.ofText? (above ++ ("/" : Text) ++ below) <;> rfl

theorem amountOf_remaining (total : Int) : amountOf Script.remainingWord total = .ok total := rfl

/-- What is paid for a portion that is written as one. For a percentage or a fraction this is
its exact part of the total, rounded down, for the word for what remains the whole total. A
portion is refused as none just when a percentage has no digit or more than one point, when a
denominator is zero, or when a row of digits is too long; this can always be reported. -/
theorem amountOf_exact (total : Int) {portion : Text}
    (spelled : Script.portion portion = some (portion, [])) :
    ((∃ number : Text, portion = number ++ "%" ∧
        (∀ c ∈ number, isDecimalDigit c = true ∨ c = '.') ∧
        amountOf portion total =
          if Decimal.IsNumber number then .ok ⌊(total : ℚ) * (Decimal.exact number / 100)⌋
          else .error (.badPortion portion)) ∨
      (∃ above below : Text, portion = above ++ "/" ++ below ∧
        (∀ c ∈ above ++ below, isDecimalDigit c = true) ∧
        amountOf portion total =
          if above.length ≤ Decimal.digitLimit ∧ below.length ≤ Decimal.digitLimit ∧
            Decimal.value below ≠ 0
          then .ok ⌊(total : ℚ) * (Decimal.value above / Decimal.value below)⌋
          else .error (.badPortion portion)) ∨
      portion = Script.remainingWord ∧ amountOf portion total = .ok total) ∧
    ∀ fault, amountOf portion total = .error fault →
      fault.reported = .badPortion portion ∧ fault.reported.kind = .execution := by
  have refused {proper : Prop} [Decidable proper] {amount : Int} {fault : Fault}
      (paid : amountOf portion total =
        if proper then .ok amount else .error (.badPortion portion))
      (failed : amountOf portion total = .error fault) :
      fault.reported = .badPortion portion ∧ fault.reported.kind = .execution := by
    rw [paid] at failed
    split at failed
    · cases failed
    · cases failed
      exact ⟨rfl, rfl⟩
  cases Script.isPortion_of_read spelled with
  | percentage nonempty chars =>
      have paid := amountOf_percentage nonempty chars total
      exact ⟨Or.inl ⟨_, rfl, chars, paid⟩, fun fault => refused paid⟩
  | fraction above digits below others =>
      have paid := amountOf_fraction above digits below others total
      refine ⟨Or.inr (Or.inl ⟨_, _, rfl, ?_, paid⟩), fun fault => refused paid⟩
      exact List.forall_mem_append.mpr ⟨digits, others⟩
  | remaining =>
      refine ⟨Or.inr (Or.inr ⟨rfl, amountOf_remaining total⟩), fun fault failed => ?_⟩
      cases failed

/-- An eighth, in percent. -/
def eighth : Text := "12.5%"

/-- An eighth of a total is rounded down. -/
theorem amountOf_eighth :
    Script.portion eighth = some (eighth, []) ∧ amountOf eighth 999 = .ok 124 := by
  have spelled : Script.portion eighth = some (eighth, []) := by decide +kernel
  refine ⟨spelled, ?_⟩
  rcases (amountOf_exact 999 spelled).1 with
    ⟨number, same, -, paid⟩ | ⟨above, below, same, -, -⟩ | ⟨same, -⟩
  · have digits : ("12.5" : Text) = number := by
      have body := congrArg List.dropLast same
      rw [List.dropLast_append_of_ne_nil (by decide)] at body
      simpa [eighth] using body
    have proper : Decimal.IsNumber number := digits ▸ (by decide +kernel)
    have worth : Decimal.exact number = 12 + 5 / 10 := by
      have front : Decimal.value (Decimal.wholePart number) = 12 := digits ▸ (by decide +kernel)
      have behind : Decimal.value (Decimal.fractionalPart number) = 5 :=
        digits ▸ (by decide +kernel)
      have places : (Decimal.fractionalPart number).length = 1 := digits ▸ (by decide +kernel)
      simp [Decimal.exact, front, behind, places]
    rw [paid, if_pos proper, worth]
    norm_num
  · have divided : (.char '/' : CodePoint) ∈ eighth := by
      rw [same]
      simp
    exact absurd divided (by decide)
  · exact absurd same (by decide)

end Portion

end DoubleEntry
