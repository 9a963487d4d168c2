import Gatehouse.Text.Hex
import Gatehouse.Text.Utf8

/-! Percent-encoding. One pass from left to right turns each `%` with two hexadecimal digits into
the byte they spell; every other byte stays, a `%` with no two digits after it among them. -/

namespace Gatehouse.Text.Percent

def sign : UInt8 := 37

def triplet? (first high low : UInt8) : Option UInt8 :=
  if first = sign then octet? high.toNat low.toNat else none

def decode : Bytes → Bytes
  | first :: high :: low :: rest =>
    match triplet? first high low with
    | some byte => byte :: decode rest
    | none => first :: decode (high :: low :: rest)
  | b :: rest => b :: decode rest
  | [] => []

def decodeText? (segment : String) : Option String := Utf8.decode? (decode (Utf8.encode segment))

end Gatehouse.Text.Percent
