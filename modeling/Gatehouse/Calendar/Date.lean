/-! Dates of the Gregorian calendar, extended to all years. A year is counted from March, so that
the leap day is its last; four hundred years always have the same number of days. -/

namespace Gatehouse.Calendar

structure Date where
  year : Int
  month : Nat
  day : Nat
  deriving DecidableEq

namespace Date

/-- The days from the first of March of year 0 to the first of January 1970. -/
def epochShift : Int := 719468

def daysBefore (month : Nat) : Nat := (153 * month + 2) / 5

def ofMarchYear (year : Int) (dayOfYear : Nat) : Date :=
  let month := (5 * dayOfYear + 2) / 153
  let day := dayOfYear - daysBefore month + 1
  if month < 10 then ⟨year, month + 3, day⟩ else ⟨year + 1, month - 9, day⟩

/-- The year of a cycle of four hundred, and the day of that year. The last century of a cycle and
the last year of four are a day longer than the others. -/
def yearOfCycle (day : Nat) : Nat × Nat :=
  let century := min (day / 36524) 3
  let inCentury := day - 36524 * century
  let inQuad := inCentury % 1461
  let year := min (inQuad / 365) 3
  (100 * century + 4 * (inCentury / 1461) + year, inQuad - 365 * year)

def ofDay (day : Int) : Date :=
  let shifted := day + epochShift
  let (year, dayOfYear) := yearOfCycle (shifted % 146097).toNat
  ofMarchYear (400 * (shifted / 146097) + year) dayOfYear

def marchYear (date : Date) : Int × Nat :=
  if date.month < 3 then (date.year - 1, date.month + 9) else (date.year, date.month - 3)

def toDay (date : Date) : Int :=
  let (year, month) := date.marchYear
  365 * year + year / 4 - year / 100 + year / 400 +
    (daysBefore month + date.day - 1 : Nat) - epochShift

end Date

end Gatehouse.Calendar
