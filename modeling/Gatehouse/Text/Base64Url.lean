import Gatehouse.Text.Utf8

/-! Base64 with the alphabet for URLs and without padding. Reading refuses a text that no bytes
produce, and says what is wrong with it. -/

namespace Gatehouse.Text.Base64Url

def symbol (n : Nat) : UInt8 :=
  if n < 26 then UInt8.ofNat (65 + n)
  else if n < 52 then UInt8.ofNat (71 + n)
  else if n < 62 then UInt8.ofNat (n - 4)
  else if n = 62 then 45
  else 95

def value? (b : UInt8) : Option Nat :=
  let n := b.toNat
  if 65 ≤ n ∧ n ≤ 90 then some (n - 65)
  else if 97 ≤ n ∧ n ≤ 122 then some (n - 71)
  else if 48 ≤ n ∧ n ≤ 57 then some (n + 4)
  else if n = 45 then some 62
  else if n = 95 then some 63
  else none

def encode : Bytes → Bytes
  | a :: b :: c :: rest =>
    symbol (a.toNat / 4) :: symbol (a.toNat % 4 * 16 + b.toNat / 16) ::
      symbol (b.toNat % 16 * 4 + c.toNat / 64) :: symbol (c.toNat % 64) :: encode rest
  | [a, b] =>
    [symbol (a.toNat / 4), symbol (a.toNat % 4 * 16 + b.toNat / 16), symbol (b.toNat % 16 * 4)]
  | [a] => [symbol (a.toNat / 4), symbol (a.toNat % 4 * 16)]
  | [] => []

def encodeText (bytes : Bytes) : String := String.ofList ((encode bytes).map Char.ofUInt8)

inductive Error where
  | invalidByte (byte : UInt8) (offset : Nat)
  | invalidLength
  | invalidLastSymbol (byte : UInt8) (offset : Nat)
  | padded
  deriving DecidableEq

namespace Error

def message : Error → String
  | invalidByte byte offset =>
    "Invalid byte " ++ toString byte.toNat ++ ", offset " ++ toString offset ++ "."
  | invalidLength => "Encoded text cannot have a 6-bit remainder."
  | invalidLastSymbol byte offset =>
    "Invalid last symbol " ++ toString byte.toNat ++ ", offset " ++ toString offset ++ "."
  | padded => "Invalid padding"

end Error

def padding : UInt8 := 61

/-- The bytes of groups of six bits. Two and three of them leave bits over, which are dropped. -/
def join : List Nat → Bytes
  | a :: b :: c :: d :: rest =>
    UInt8.ofNat (a * 4 + b / 16) :: UInt8.ofNat (b % 16 * 16 + c / 4) ::
      UInt8.ofNat (c % 4 * 64 + d) :: join rest
  | [a, b, c] => [UInt8.ofNat (a * 4 + b / 16), UInt8.ofNat (b % 16 * 16 + c / 4)]
  | [a, b] => [UInt8.ofNat (a * 4 + b / 16)]
  | _ => []

def leftOver : List Nat → Nat
  | _ :: _ :: _ :: _ :: rest => leftOver rest
  | [_, _, c] => c % 4
  | [_, b] => b % 16
  | _ => 0

def isPadding (offset : Nat) (rest : Bytes) : Bool :=
  2 ≤ offset % 4 && offset % 4 + rest.length ≤ 4 && rest.all (· == padding)

def values (offset : Nat) : Bytes → Except Error (List Nat)
  | [] => .ok []
  | b :: rest =>
    match value? b with
    | some n => do return n :: (← values (offset + 1) rest)
    | none => .error (if isPadding offset (b :: rest) then .padded else .invalidByte b offset)

/-- A length that cannot be is told first, unless the last byte is plainly not of the text. -/
def decode (bytes : Bytes) : Except Error Bytes :=
  match bytes.getLast? with
  | none => .ok []
  | some last =>
    if bytes.length % 4 = 1 then
      if last ≠ padding ∧ value? last = none then .error (.invalidByte last (bytes.length - 1))
      else .error .invalidLength
    else do
      let groups ← values 0 bytes
      if leftOver groups = 0 then return join groups
      else .error (.invalidLastSymbol last (bytes.length - 1))

end Gatehouse.Text.Base64Url
