/-! Hexadecimal digits of either case, told by their character code so that one reader serves
characters and bytes alike, and the byte that a pair of digits spells. -/

namespace Gatehouse.Text

def hexValue? (code : Nat) : Option Nat :=
  if 48 ≤ code ∧ code ≤ 57 then some (code - 48)
  else if 65 ≤ code ∧ code ≤ 70 then some (code - 55)
  else if 97 ≤ code ∧ code ≤ 102 then some (code - 87)
  else none

theorem hexValue?_lt {code value : Nat} (h : hexValue? code = some value) : value < 16 := by
  unfold hexValue? at h
  split at h
  · cases h; omega
  · split at h
    · cases h; omega
    · split at h
      · cases h; omega
      · cases h

def octet? (high low : Nat) : Option UInt8 := do
  let h ← hexValue? high
  let l ← hexValue? low
  return UInt8.ofNat (16 * h + l)

def hexDigits (n : Nat) : List Char := Nat.toDigits 16 n

end Gatehouse.Text
