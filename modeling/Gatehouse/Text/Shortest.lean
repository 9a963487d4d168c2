import Gatehouse.Text.Decimal

/-! The shortest decimal that reads back as a given double, worked out in exact arithmetic. A
positive double is `m * 2 ^ q`; the reals that round to it form an interval, ends included when `m`
is even. The first grid of 1, 2, .. 17 digits that meets the interval gives the digits, of two
points in it the nearer. -/

namespace Gatehouse.Text.Shortest

/-- The double `mantissa * 2 ^ exponent`. `isPower` tells that the gap below it is half the gap
above. -/
structure Binary where
  mantissa : Nat
  exponent : Int
  isPower : Bool

def leadingBit : Nat := 4503599627370496

def Binary.ofBits (bits : UInt64) : Binary :=
  let fraction : Nat := bits.toNat % leadingBit
  let field : Nat := bits.toNat / leadingBit % 2048
  if field = 0 then ⟨fraction, -1074, false⟩
  else ⟨leadingBit + fraction, (field : Int) - 1075, fraction == 0 && field != 1⟩

structure Spelling where
  digits : Nat
  exponent : Int
  deriving DecidableEq

def ratio (n : Nat) (q k : Int) : Nat × Nat :=
  (n * Nat.pow 2 q.toNat * Nat.pow 10 (-k).toNat, Nat.pow 10 k.toNat * Nat.pow 2 (-q).toNat)

def compareTo (d : Nat) (k : Int) (n : Nat) (q : Int) : Ordering :=
  let (num, den) := ratio n q k
  compare (d * den) num

namespace Binary

def covers (x : Binary) (d : Nat) (k : Int) : Bool :=
  let low := 4 * x.mantissa - (if x.isPower then 1 else 2)
  let high := 4 * x.mantissa + 2
  match compareTo d k low (x.exponent - 2), compareTo d k high (x.exponent - 2) with
  | .gt, .lt => true
  | .eq, _ | _, .eq => x.mantissa % 2 == 0
  | _, _ => false

def decimalExponent (x : Binary) : Int :=
  let (num, den) := ratio x.mantissa x.exponent (-324)
  ((Text.Decimal.digits (num / den)).length : Int) - 1 - 324

/-- Of the two neighbours of the double on a grid the nearer that reads back as it. -/
def onGrid? (x : Binary) (k : Int) : Option Spelling :=
  let (num, den) := ratio x.mantissa x.exponent k
  let below := num / den
  let twice := 2 * (num % den)
  let preferAbove := den < twice || (twice == den && below % 2 == 1)
  let first := if preferAbove then below + 1 else below
  let second := if preferAbove then below else below + 1
  if x.covers first k then some ⟨first, k⟩
  else if x.covers second k then some ⟨second, k⟩
  else none

/-- The digits on the coarsest grid that has any; seventeen always suffice. -/
def shortest (x : Binary) : Spelling :=
  ((List.range 17).findSome? fun (n : Nat) => x.onGrid? (x.decimalExponent - (n : Int))).getD
    ⟨x.mantissa, x.exponent⟩

end Binary

def pointed : List Char → List Char
  | [] => []
  | [d] => [d]
  | d :: ds => d :: '.' :: ds

/-- Writes digits whose first counts `10 ^ e`: in places for `e` from -5 to 15, with one digit
behind the point at least, and by an exponent with its sign otherwise. -/
def layout (ds : List Char) (e : Int) : List Char :=
  if e < -5 ∨ 15 < e then
    pointed ds ++ 'e' :: (if e < 0 then '-' else '+') :: Decimal.digits e.natAbs
  else if e < 0 then '0' :: '.' :: List.replicate (e.natAbs - 1) '0' ++ ds
  else
    let whole := e.toNat + 1
    let padded := ds ++ List.replicate (whole + 1 - ds.length) '0'
    padded.take whole ++ '.' :: padded.drop whole

def trimmed (digits : Nat) : List Char :=
  ((Text.Decimal.digits digits).reverse.dropWhile (· == '0')).reverse

def signBit : Nat := 9223372036854775808

def render (x : Float) : String :=
  let bits := x.toBits
  let body :=
    if bits.toNat % signBit = 0 then ['0', '.', '0']
    else
      let d := (Binary.ofBits bits).shortest
      layout (trimmed d.digits) (d.exponent + (Text.Decimal.digits d.digits).length - 1)
  String.ofList (if signBit ≤ bits.toNat then '-' :: body else body)

end Gatehouse.Text.Shortest
