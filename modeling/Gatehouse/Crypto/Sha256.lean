import Gatehouse.Text.Utf8

/-! SHA-256. A message is padded to blocks of sixteen words; each block is mixed into the eight
words of the state in sixty-four rounds. -/

namespace Gatehouse.Crypto.Sha256

/-- The fractional parts of the cube roots of the first sixty-four primes. -/
def roundConstants : List UInt32 :=
  [0x428a2f98, 0x71374491, 0xb5c0fbcf, 0xe9b5dba5, 0x3956c25b, 0x59f111f1, 0x923f82a4, 0xab1c5ed5,
    0xd807aa98, 0x12835b01, 0x243185be, 0x550c7dc3, 0x72be5d74, 0x80deb1fe, 0x9bdc06a7, 0xc19bf174,
    0xe49b69c1, 0xefbe4786, 0x0fc19dc6, 0x240ca1cc, 0x2de92c6f, 0x4a7484aa, 0x5cb0a9dc, 0x76f988da,
    0x983e5152, 0xa831c66d, 0xb00327c8, 0xbf597fc7, 0xc6e00bf3, 0xd5a79147, 0x06ca6351, 0x14292967,
    0x27b70a85, 0x2e1b2138, 0x4d2c6dfc, 0x53380d13, 0x650a7354, 0x766a0abb, 0x81c2c92e, 0x92722c85,
    0xa2bfe8a1, 0xa81a664b, 0xc24b8b70, 0xc76c51a3, 0xd192e819, 0xd6990624, 0xf40e3585, 0x106aa070,
    0x19a4c116, 0x1e376c08, 0x2748774c, 0x34b0bcb5, 0x391c0cb3, 0x4ed8aa4a, 0x5b9cca4f, 0x682e6ff3,
    0x748f82ee, 0x78a5636f, 0x84c87814, 0x8cc70208, 0x90befffa, 0xa4506ceb, 0xbef9a3f7, 0xc67178f2]

structure State where
  a : UInt32
  b : UInt32
  c : UInt32
  d : UInt32
  e : UInt32
  f : UInt32
  g : UInt32
  h : UInt32

def State.initial : State :=
  ⟨0x6a09e667, 0xbb67ae85, 0x3c6ef372, 0xa54ff53a, 0x510e527f, 0x9b05688c, 0x1f83d9ab, 0x5be0cd19⟩

def State.add (x y : State) : State :=
  ⟨x.a + y.a, x.b + y.b, x.c + y.c, x.d + y.d, x.e + y.e, x.f + y.f, x.g + y.g, x.h + y.h⟩

def State.words (x : State) : List UInt32 := [x.a, x.b, x.c, x.d, x.e, x.f, x.g, x.h]

def rotateRight (x : UInt32) (n : UInt32) : UInt32 := x >>> n ||| x <<< (32 - n)

def round (x : State) (word constant : UInt32) : State :=
  let sum := rotateRight x.e 6 ^^^ rotateRight x.e 11 ^^^ rotateRight x.e 25
  let choice := (x.e &&& x.f) ^^^ (~~~x.e &&& x.g)
  let t := x.h + sum + choice + constant + word
  let sum' := rotateRight x.a 2 ^^^ rotateRight x.a 13 ^^^ rotateRight x.a 22
  let majority := (x.a &&& x.b) ^^^ (x.a &&& x.c) ^^^ (x.b &&& x.c)
  ⟨t + sum' + majority, x.a, x.b, x.c, x.d + t, x.e, x.f, x.g⟩

def nextWord (window : List UInt32) : UInt32 :=
  let first := window.getD 1 0
  let second := window.getD 14 0
  let small := rotateRight first 7 ^^^ rotateRight first 18 ^^^ first >>> 3
  let small' := rotateRight second 17 ^^^ rotateRight second 19 ^^^ second >>> 10
  window.headD 0 + small + window.getD 9 0 + small'

def compress (x : State) (block : List UInt32) : State :=
  let step := fun (state : State × List UInt32) (constant : UInt32) =>
    (round state.1 (state.2.headD 0) constant, state.2.tail ++ [nextWord state.2])
  x.add (roundConstants.foldl step (x, block)).1

def wordBytes (w : UInt32) : Bytes :=
  [(w >>> 24).toUInt8, (w >>> 16).toUInt8, (w >>> 8).toUInt8, w.toUInt8]

def words : Bytes → List UInt32
  | a :: b :: c :: d :: rest =>
    (a.toUInt32 <<< 24 ||| b.toUInt32 <<< 16 ||| c.toUInt32 <<< 8 ||| d.toUInt32) :: words rest
  | _ => []

def lengthBytes (length : Nat) : Bytes :=
  wordBytes (UInt32.ofNat (8 * length / UInt32.size)) ++ wordBytes (UInt32.ofNat (8 * length))

def pad (message : Bytes) : Bytes :=
  message ++ 128 :: List.replicate ((119 - message.length % 64) % 64) 0 ++
    lengthBytes message.length

def absorb (x : State) (ws : List UInt32) : State :=
  if ws.length < 16 then x else absorb (compress x (ws.take 16)) (ws.drop 16)
  termination_by ws.length
  decreasing_by simp only [List.length_drop]; omega

def hash (message : Bytes) : Bytes :=
  (absorb .initial (words (pad message))).words.flatMap wordBytes

end Gatehouse.Crypto.Sha256
