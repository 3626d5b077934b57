import DoubleEntry.Data.Access
import DoubleEntry.Number.Ratio
import DoubleEntry.Script.Reference

/-!
# Portions

A percentage or a fraction of an amount, rounded down. The word for what remains,
and any text that is neither, stand for the whole amount.
-/

namespace DoubleEntry

namespace Portion

/-- The share that a portion stands for, if it names one. A text that looks like a
percentage or a fraction and is none is refused. -/
def share (portion : Text) : Except Fault (Option Ratio) :=
  if portion = Script.remainingWord then .ok none
  else if portion.getLast? = some (.char '%') then
    match Ratio.ofText? portion.dropLast with
    | some ratio => .ok (some ratio.percent)
    | none => .error (.badPortion portion)
  else if portion.contains '/' then
    match Ratio.ofText? portion with
    | some ratio => .ok (some ratio)
    | none => .error (.badPortion portion)
  else .ok none

/-- The part of a total that a portion stands for, rounded down. -/
def amountOf (portion : Text) (total : Int) : Except Fault Int := do
  match ← share portion with
  | some ratio => return ratio.floorOf total
  | none => return total

/-- As `amountOf`, for a total of any kind. Only of a number can a share be taken; the
part of a number with a fraction is a whole number of its kind. -/
def partOfData (portion : Text) (total : Data) : Except Fault Data := do
  match ← share portion with
  | none => return total
  | some ratio =>
    match total with
    | .double x =>
      match x.fraction? with
      | some (n, d) =>
        let part := (n * ratio.numerator) / (d * ratio.denominator : Nat)
        return .double (Double.ofFraction (part < 0) part.natAbs 1)
      | none => return .double .notANumber
    | other => return .int (ratio.floorOf (← other.whole))

end Portion

end DoubleEntry
