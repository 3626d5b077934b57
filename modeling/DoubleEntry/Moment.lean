import DoubleEntry.Number.Decimal

/-!
# Moments

A moment is a date and a time of day, to the microsecond, as a clock shows it. It may say
in which zone the clock stands. Moments without a zone are compared by what their clocks
show, and so are moments of one region, even where its clocks are put back. Other moments
with zones are compared by the instants that they mean. A moment with a zone and one
without cannot be compared.
-/

namespace DoubleEntry

/-- Where a clock stands: how far it is ahead of universal time, in microseconds, and the
region that it follows, if it may be put forward or back. -/
structure Zone where
  offset : Int
  region : Option Text
  deriving DecidableEq

/-- A date and a time of day, with the zone of the clock if it is known. -/
structure Moment where
  year : Nat
  month : Nat
  day : Nat
  hour : Nat
  minute : Nat
  second : Nat
  microsecond : Nat
  zone : Option Zone := none
  deriving DecidableEq

namespace Zone

/-- The number of microseconds of a second. -/
def microseconds : Nat := 1000000

/-- A zone without a region. -/
def fixed (offset : Int) : Zone := ⟨offset, none⟩

/-- Universal time. -/
def universal : Zone := fixed 0

/-- Whether two clocks follow one region. -/
def sharesRegion (a b : Zone) : Bool := a.region.isSome && a.region = b.region

/-- A zone in writing, as hours and minutes ahead or behind. Seconds and their fraction are
left out when they are zero. -/
def text (zone : Zone) : Text :=
  let two := Decimal.zeroPadded 2
  let seconds := zone.offset.natAbs / microseconds
  let fraction := zone.offset.natAbs % microseconds
  (if zone.offset < 0 then "-" else "+" : Text) ++ two (seconds / 3600) ++ ":" ++
    two (seconds / 60 % 60) ++
    (if seconds % 60 = 0 && fraction = 0 then [] else ':' :: two (seconds % 60) : Text) ++
    (if fraction = 0 then [] else '.' :: Decimal.zeroPadded 6 fraction : Text)

end Zone

namespace Moment

/-! ## The calendar -/

/-- Whether a year has a twenty-ninth of February. -/
def isLeapYear (year : Nat) : Bool := year % 4 = 0 && (year % 100 ≠ 0 || year % 400 = 0)

/-- The number of days of a month. -/
def daysInMonth (year month : Nat) : Nat :=
  if month = 2 then (if isLeapYear year then 29 else 28)
  else if month = 4 || month = 6 || month = 9 || month = 11 then 30
  else 31

/-- The last year of the calendar. -/
def lastYear : Nat := 9999

/-- The number of days before the first day of a year. -/
def daysBeforeYear (year : Nat) : Nat :=
  let past := year - 1
  past * 365 + past / 4 - past / 100 + past / 400

/-- The number of days of a year before the first day of a month. -/
def daysBeforeMonth (year month : Nat) : Nat :=
  (List.range (month - 1)).foldl (fun days passed => days + daysInMonth year (passed + 1)) 0

/-- The same time of day on the following day, unless the calendar ends. The zone is
kept. -/
def nextDay? (m : Moment) : Option Moment :=
  if m.day < daysInMonth m.year m.month then some { m with day := m.day + 1 }
  else if m.month < 12 then some { m with month := m.month + 1, day := 1 }
  else if m.year < lastYear then some { m with year := m.year + 1, month := 1, day := 1 }
  else none

/-! ## The order of time -/

/-- What the clock shows, as a number of microseconds. -/
def rank (m : Moment) : Nat :=
  let days := daysBeforeYear m.year + daysBeforeMonth m.year m.month + m.day
  (((days * 24 + m.hour) * 60 + m.minute) * 60 + m.second) * Zone.microseconds + m.microsecond

/-- The instant that is meant, in universal time, given the zone. -/
def instant (m : Moment) (zone : Zone) : Int := m.rank - zone.offset

/-- Whether one moment comes before another, if they can be compared. -/
def isBefore? (a b : Moment) : Option Bool :=
  match a.zone, b.zone with
  | none, none => some (a.rank < b.rank)
  | some here, some there =>
    if here.sharesRegion there then some (a.rank < b.rank)
    else some (a.instant here < b.instant there)
  | _, _ => none

/-! ## Reading and writing -/

/-- A moment in writing, with one character between date and time of day. The
fraction of a second has six digits and is left out when it is zero. -/
def text (separator : CodePoint) (m : Moment) : Text :=
  let two := Decimal.zeroPadded 2
  Decimal.zeroPadded 4 m.year ++ "-" ++ two m.month ++ "-" ++ two m.day ++ [separator] ++
    two m.hour ++ ":" ++ two m.minute ++ ":" ++ two m.second ++
    (if m.microsecond = 0 then [] else '.' :: Decimal.zeroPadded 6 m.microsecond : Text) ++
    (m.zone.map Zone.text).getD []

/-- A moment as records carry it. -/
def stamp (m : Moment) : Text := m.text 'T'

/-- A moment as people read it. -/
def shown (m : Moment) : Text := m.text ' '

/-- The number that a row of digits stands for. -/
def number? (digits : Text) : Option Nat :=
  if digits.all isDecimalDigit then some (Decimal.value digits) else none

/-- The microseconds in the fraction of a second, which may be left out. -/
def fraction? : Text → Option Nat
  | [] => some 0
  | .char '.' :: digits =>
    (number? digits).map fun n =>
      n * Nat.pow 10 (6 - digits.length) / Nat.pow 10 (digits.length - 6)
  | _ => none

/-- How far a clock is ahead or behind, from hours, minutes and seconds. -/
def distance? (t : Text) : Option Nat := do
  let (whole, fraction) := (t.take 8, t.drop 8)
  match Text.pieces ':' whole with
  | [hours, minutes] => return ((← number? hours) * 60 + (← number? minutes)) * 60 * Zone.microseconds
  | [hours, minutes, seconds] =>
    return (((← number? hours) * 60 + (← number? minutes)) * 60 + (← number? seconds)) *
      Zone.microseconds + (← fraction? fraction)
  | _ => none

/-- The zone behind a time of day, which may be left out. -/
def zone? : Text → Option (Option Zone)
  | [] => some none
  | [.char 'Z'] => some (some Zone.universal)
  | .char '+' :: ahead => (distance? ahead).map fun n => some (Zone.fixed n)
  | .char '-' :: behind => (distance? behind).map fun n => some (Zone.fixed (-n))
  | _ => none

/-- Whether a character begins the name of a zone. -/
def opensZone (c : CodePoint) : Bool := c = 'Z' || c = '+' || c = '-'

/-- Read the written form with the given separator; the fraction may have up to six
digits, and the zone may be given by its distance from universal time. -/
def ofText? (separator : CodePoint) (t : Text) : Option Moment := do
  let (date, rest) := (t.take 10, t.drop 10)
  let (clock, behind) := ((rest.drop 1).take 8, rest.drop 9)
  match Text.pieces '-' date, Text.pieces ':' clock with
  | [year, month, day], [hour, minute, second] =>
    if rest.head? ≠ some separator then none
    return {
      year := ← number? year
      month := ← number? month
      day := ← number? day
      hour := ← number? hour
      minute := ← number? minute
      second := ← number? second
      microsecond := ← fraction? (behind.takeWhile fun c => !opensZone c)
      zone := ← zone? (behind.dropWhile fun c => !opensZone c) }
  | _, _ => none

end Moment

/-- When something happened: at a moment of a ledger's own clock, or at some time of
the wall clock, which is not recorded. -/
inductive Stamp where
  | logical (moment : Moment)
  | wallClock
  deriving DecidableEq

end DoubleEntry
