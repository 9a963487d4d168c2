/-! Decimal numerals in ASCII digits. Reading allows leading zeros and asks for one digit at
least; writing gives the shortest numeral. -/

namespace Gatehouse.Text.Decimal

def isDigit (c : Char) : Bool := '0' ≤ c && c ≤ '9'

def value (digits : List Char) : Nat := Nat.ofDigitChars 10 digits 0

def parse? (cs : List Char) : Option Nat :=
  if !cs.isEmpty && cs.all isDigit then some (value cs) else none

/-- Reads a number below `bound`, with one `+` in front of it if need be. -/
def parseBelow? (bound : Nat) (cs : List Char) : Option Nat := do
  let n ← parse? (match cs with | '+' :: digits => digits | _ => cs)
  if n < bound then some n else none

def isExponent : List Char → Bool
  | [] => true
  | mark :: rest =>
    (mark == 'e' || mark == 'E') &&
      (parse? (match rest with | '+' :: ds | '-' :: ds => ds | _ => rest)).isSome

def isFraction (cs : List Char) : Bool :=
  let whole := cs.takeWhile isDigit
  match cs.dropWhile isDigit with
  | '.' :: rest =>
    !(whole ++ rest.takeWhile isDigit).isEmpty && isExponent (rest.dropWhile isDigit)
  | rest => !whole.isEmpty && isExponent rest

def isReal (cs : List Char) : Bool :=
  isFraction cs || ["inf", "infinity", "nan"].contains (String.ofList (cs.map Char.toLower))

def digits (n : Nat) : List Char := Nat.toDigits 10 n

def padded (width n : Nat) : List Char :=
  List.replicate (width - (digits n).length) '0' ++ digits n

end Gatehouse.Text.Decimal
