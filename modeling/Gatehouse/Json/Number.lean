import Gatehouse.Json.Reader
import Gatehouse.Text.Decimal
import Gatehouse.Text.Shortest

/-! Numbers. Whole numbers of 64 bits are kept exactly. Every other number becomes a double: its
first digits that fit 64 bits are the significand, which is then multiplied or divided by a power
of ten. -/

namespace Gatehouse.Json

inductive Number where
  | integer (value : Int)
  | real (value : Float)

namespace Number

def found : Number → Found
  | integer value => .integer value
  | real value => .real (Text.Shortest.render value)

def absorb (bound : Nat) (n : Nat) : List Nat → Nat × List Nat
  | [] => (n, [])
  | d :: ds => if 10 * n + d < bound then absorb bound (10 * n + d) ds else (n, d :: ds)

def powerOfTen (n : Nat) : Float := Float.ofScientific 1 false n

/-- Multiplies or divides by a power of ten, in steps of `10 ^ 308` where the power is too small to
be a double; nothing if the result is too large to be one. -/
def scale? (x : Float) (e : Int) : Option Float :=
  if e.natAbs ≤ 308 then
    if e < 0 then some (x / powerOfTen e.natAbs)
    else if (x * powerOfTen e.natAbs).isInf then none else some (x * powerOfTen e.natAbs)
  else if x == 0 then some x
  else if 0 ≤ e then none
  else scale? (x / powerOfTen 308) (e + 308)
  termination_by e.natAbs
  decreasing_by omega

def signed (isNegative : Bool) (x : Float) : Float := if isNegative then -x else x

end Number

namespace Reader

def isDigit (b : UInt8) : Bool := 48 ≤ b && b ≤ 57

def peekDigits : Reader (List Nat) := fun s =>
  (.ok ((s.takeWhile isDigit).map fun b => b.toNat - 48), s)

def drop (n : Nat) : Reader Unit := fun s => (.ok (), s.drop n)

def takeDigits : Reader (List Nat) := do
  let digits ← peekDigits
  drop digits.length
  return digits

def startsWithDigit : Reader Bool := do
  return ((← peek?).map Text.Decimal.isDigit).getD false

def wholeDigits (atEnd : Problem) : Reader (List Nat) := do
  match ← peek? with
  | none => fail atEnd
  -- A zero stands alone.
  | some '0' => do
    advance
    if ← startsWithDigit then failAhead .invalidNumber else return [0]
  | some c =>
    if Text.Decimal.isDigit c then takeDigits
    else do
      advance
      fail .invalidNumber

def fractionDigits? (atEnd : Problem) : Reader (Option (List Nat)) := do
  match ← peek? with
  | some '.' => do
    advance
    let digits ← takeDigits
    if digits.isEmpty then
      match ← peek? with
      | none => failAhead atEnd
      | some _ => failAhead .invalidNumber
    else return some digits
  | _ => return none

def exponentSign? (atEnd : Problem) : Reader (Option Bool) := do
  match ← peek? with
  | some 'e' | some 'E' => do
    advance
    let isNegative ← do
      match ← peek? with
      | some '-' => do advance; pure true
      | some '+' => do advance; pure false
      | _ => pure false
    match ← peek? with
    | none => fail atEnd
    | some c =>
      if Text.Decimal.isDigit c then return some isNegative
      else do
        advance
        fail .invalidNumber
  | _ => return none

/-- Scales a significand by the exponent written next. One of more than 31 bits counts as endless:
too large for all but zero if positive, and zero if negative. -/
def exponent (significand : Nat) (start : Int) (isNegative : Bool) : Reader Float := do
  let digits ← peekDigits
  match Number.absorb 2147483648 0 digits with
  | (n, []) => do
    drop digits.length
    match Number.scale? significand.toFloat (if isNegative then start - n else start + n) with
    | some x => return x
    | none => fail .numberOutOfRange
  | (_, left) =>
    if significand ≠ 0 ∧ !isNegative then do
      drop (digits.length + 1 - left.length)
      fail .numberOutOfRange
    else do
      drop digits.length
      return 0

def unsignedNumber (isNegative : Bool) : Reader Number := do
  let whole ← wholeDigits .endInValue
  let (significand, left) := Number.absorb UInt64.size 0 whole
  let fraction? ← fractionDigits? .endInValue
  let fraction := fraction?.getD []
  let (significand, unused) := Number.absorb UInt64.size significand fraction
  let start : Int := (left.length : Int) - (fraction.length - unused.length : Nat)
  match ← exponentSign? .endInValue with
  | some toLeft => do
    let x ← exponent significand start toLeft
    return .real (Number.signed isNegative x)
  | none =>
    if fraction?.isNone && left.isEmpty then
      if !isNegative then return .integer significand
      else if significand ≠ 0 ∧ Int64.minValue.toInt ≤ -significand then
        return .integer (-significand)
      else return .real (-significand.toFloat)
    else
      match Number.scale? significand.toFloat start with
      | some x => return .real (Number.signed isNegative x)
      | none => fail .numberOutOfRange

def number : Reader Number := do
  match ← peek? with
  | some '-' => do
    advance
    unsignedNumber true
  | _ => unsignedNumber false

def skipNumber : Reader Unit := do
  if (← peek?) = some '-' then advance
  let _ ← wholeDigits .invalidNumber
  let _ ← fractionDigits? .invalidNumber
  if (← exponentSign? .invalidNumber).isSome then
    let _ ← takeDigits

end Reader

end Gatehouse.Json
