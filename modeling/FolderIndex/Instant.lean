import FolderIndex.Double.Decimal

namespace FolderIndex

/-! Moments in time, their text, and the clock that the index reads. -/

/-- A moment, in microseconds since the beginning of 1970. -/
structure Instant where
  micros : Int
deriving DecidableEq, Repr

namespace Instant

/-- A day of the calendar. -/
structure Day where
  year : Nat
  month : Nat
  day : Nat
deriving DecidableEq, Repr

def isLeap (year : Nat) : Bool :=
  (year % 4 = 0 && year % 100 ≠ 0) || year % 400 = 0

/-- The days of the years before `year`, from the first year on. -/
def daysBeforeYear (year : Nat) : Nat :=
  let passed := year - 1
  365 * passed + passed / 4 - passed / 100 + passed / 400

def monthLengths (year : Nat) : List Nat :=
  [31, if isLeap year then 29 else 28, 31, 30, 31, 30, 31, 31, 30, 31, 30, 31]

/-- The month and the day of a month that a day of the year lies in, from a first month on. -/
def splitMonths (month : Nat) (dayOfYear : Nat) : List Nat → Nat × Nat
  | [] => (month, dayOfYear + 1)
  | length :: rest =>
      if dayOfYear < length then (month, dayOfYear + 1)
      else splitMonths (month + 1) (dayOfYear - length) rest

/-- The year that a day lies in, counted from the first day of the first year. Of four
centuries, and of four years in a century, the last is longer or shorter than the others,
hence the two minima. -/
def yearOfDay (days : Nat) : Nat :=
  let inEra := days % 146097
  let century := min (inEra / 36524) 3
  let inCentury := inEra - 36524 * century
  let inCycle := inCentury % 1461
  400 * (days / 146097) + 100 * century + 4 * (inCentury / 1461) + min (inCycle / 365) 3 + 1

def dayOf (days : Nat) : Day :=
  let year := yearOfDay days
  let inYear := splitMonths 1 (days - daysBeforeYear year) (monthLengths year)
  ⟨year, inYear.1, inYear.2⟩

/-- The days from the beginning of the first year to that of 1970. -/
def epochDays : Int := 719162

def microsPerDay : Int := 86400000000

/-- The moment in the common form with a day, a time of day and no offset; the fraction of a
second is written with six digits, and only where there is one. -/
def toText (instant : Instant) : String :=
  let day := dayOf (instant.micros.fdiv microsPerDay + epochDays).toNat
  let inDay := (instant.micros.fmod microsPerDay).toNat
  let seconds := inDay / 1000000
  let micros := inDay % 1000000
  let digits (width value : Nat) := Double.paddedDigits width value
  String.ofList
    (digits 4 day.year ++ '-' :: digits 2 day.month ++ '-' :: digits 2 day.day ++
      'T' :: digits 2 (seconds / 3600) ++ ':' :: digits 2 (seconds / 60 % 60) ++
      ':' :: digits 2 (seconds % 60) ++
      (if micros = 0 then [] else '.' :: digits 6 micros) ++ ['+', '0', '0', ':', '0', '0'])

end Instant

/-- A clock that moves on by one step each time it is read. -/
structure Clock where
  now : Int
  step : Int
deriving DecidableEq, Repr

/-- What the clock shows, and the clock afterwards. -/
def Clock.read (clock : Clock) : Instant × Clock :=
  (⟨clock.now⟩, { clock with now := clock.now + clock.step })

end FolderIndex
