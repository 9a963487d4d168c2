import Gatehouse.Calendar.Date
import Gatehouse.Text.Decimal

/-! Instants as RFC 3339 writes them: the local date and time of some offset, a fraction without
trailing zeros, and the offset itself. -/

namespace Gatehouse.Calendar

/-- Nanoseconds since the start of 1970, and the seconds by which local clocks are ahead. -/
structure Timestamp where
  nanos : Int
  offset : Int
  deriving DecidableEq

namespace Timestamp

inductive Component where
  | year
  | offsetHour
  | offsetSecond
  deriving DecidableEq

inductive Error where
  | outOfRange
  | unwritable (component : Component)
  deriving DecidableEq

namespace Error

def message : Error → String
  | outOfRange => ""
  | unwritable component =>
    "The " ++
      (match component with
        | .year => "year"
        | .offsetHour => "offset_hour"
        | .offsetSecond => "offset_second") ++
      " component cannot be formatted into the requested format."

end Error

def localSeconds (t : Timestamp) : Int := t.nanos / 1000000000 + t.offset

def localDate (t : Timestamp) : Date := Date.ofDay (t.localSeconds / 86400)

def secondOfDay (t : Timestamp) : Nat := (t.localSeconds % 86400).toNat

def subsecond (t : Timestamp) : Nat := (t.nanos % 1000000000).toNat

def utcYear (t : Timestamp) : Int := (Date.ofDay (t.nanos / 1000000000 / 86400)).year

/-- The largest offset that can be stated, one second short of 26 hours. -/
def maxOffset : Nat := 93599

def check (t : Timestamp) : Except Error Unit :=
  if 9999 < t.utcYear.natAbs then .error .outOfRange
  else if maxOffset < t.offset.natAbs then .error .outOfRange
  else if 9999 < t.localDate.year.natAbs then .error .outOfRange
  else if t.localDate.year < 0 then .error (.unwritable .year)
  else if 23 < t.offset.natAbs / 3600 then .error (.unwritable .offsetHour)
  else if t.offset.natAbs % 60 ≠ 0 then .error (.unwritable .offsetSecond)
  else .ok ()

open Text

def dateText (date : Date) : List Char :=
  Decimal.padded 4 date.year.toNat ++ '-' :: Decimal.padded 2 date.month ++
    '-' :: Decimal.padded 2 date.day

def clockText (second : Nat) : List Char :=
  Decimal.padded 2 (second / 3600) ++ ':' :: Decimal.padded 2 (second / 60 % 60) ++
    ':' :: Decimal.padded 2 (second % 60)

def fractionText (nanos : Nat) : List Char :=
  if nanos = 0 then []
  else '.' :: ((Decimal.padded 9 nanos).reverse.dropWhile (· == '0')).reverse

def offsetText (offset : Int) : List Char :=
  if offset = 0 then ['Z']
  else (if offset < 0 then '-' else '+') :: Decimal.padded 2 (offset.natAbs / 3600) ++
    ':' :: Decimal.padded 2 (offset.natAbs / 60 % 60)

def text (t : Timestamp) : String :=
  String.ofList (dateText t.localDate ++ 'T' :: clockText t.secondOfDay ++
    fractionText t.subsecond ++ offsetText t.offset)

def write (t : Timestamp) : Except Error String := do
  t.check
  return t.text

end Timestamp

/-- An instant of the years 0 to 9999, which can always be written in UTC. -/
structure UtcTime where
  nanos : Int
  inYears : -62167219200000000000 ≤ nanos ∧ nanos < 253402300800000000000

namespace UtcTime

def epoch : UtcTime := ⟨0, by decide⟩

def timestamp (t : UtcTime) : Timestamp := ⟨t.nanos, 0⟩

end UtcTime

end Gatehouse.Calendar
