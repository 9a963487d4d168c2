/-! Text as bytes and back. `decode?` takes exactly the bytes that `encode` produces, and
`validLength` measures how far a byte text can be read before its first fault. -/

namespace Gatehouse

abbrev Bytes := List UInt8

namespace Text.Utf8

def encode (s : String) : Bytes := s.toList.flatMap String.utf8EncodeChar

def decode? (bytes : Bytes) : Option String := String.fromUTF8? bytes.toByteArray

def first? (bytes : Bytes) : Option Char := (bytes.take 4).toByteArray.utf8DecodeChar? 0

theorem length_drop_utf8Size_lt (b : UInt8) (rest : Bytes) (c : Char) :
    ((b :: rest).drop c.utf8Size).length < (b :: rest).length := by
  have := c.utf8Size_pos
  simp only [List.length_drop, List.length_cons]
  omega

def validLength : Bytes → Nat
  | [] => 0
  | b :: rest =>
    match first? (b :: rest) with
    | none => 0
    | some c => c.utf8Size + validLength ((b :: rest).drop c.utf8Size)
  termination_by bytes => bytes.length
  decreasing_by exact length_drop_utf8Size_lt b rest c

end Text.Utf8

end Gatehouse
