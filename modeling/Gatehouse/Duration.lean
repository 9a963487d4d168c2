import Gatehouse.Text.Decimal

/-! Lifetimes such as `900s`, `15m` or `7d`: a numeral and a unit, counted in milliseconds that fit
64 bits. -/

namespace Gatehouse

structure Duration where
  millis : Nat
  fits : millis < UInt64.size
  deriving DecidableEq

namespace Duration

def unitMillis? (unit : String) : Option Nat :=
  match unit with
  | "" | "ms" => some 1
  | "s" => some 1000
  | "m" => some 60000
  | "h" => some 3600000
  | "d" => some 86400000
  | "w" => some 604800000
  | _ => none

def ofMillis? (millis : Nat) : Option Duration :=
  if fits : millis < UInt64.size then some ⟨millis, fits⟩ else none

def parse? (s : String) : Option Duration := do
  let amount ← Text.Decimal.parse? (s.toList.takeWhile Text.Decimal.isDigit)
  let unit ← unitMillis? (String.ofList (s.toList.dropWhile Text.Decimal.isDigit))
  if amount < UInt64.size then ofMillis? (amount * unit) else none

def seconds (d : Duration) : Nat := d.millis / 1000

def subsecondNanos (d : Duration) : Nat := d.millis % 1000 * 1000000

end Duration

end Gatehouse
