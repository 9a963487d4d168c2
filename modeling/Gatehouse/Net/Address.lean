import Gatehouse.Text.Hex
import Gatehouse.Text.Decimal

/-! Internet addresses and their texts. An IPv6 text leaves out one run of zero groups at most and
may end in an IPv4 address; the printed form leaves out the longest run, the first of equals. -/

namespace Gatehouse.Net

structure V4 where
  a : UInt8
  b : UInt8
  c : UInt8
  d : UInt8
  deriving DecidableEq

structure V6 where
  groups : Vector UInt16 8
  deriving DecidableEq

inductive Address where
  | v4 (address : V4)
  | v6 (address : V6)
  deriving DecidableEq

namespace V4

def part? (cs : List Char) : Option UInt8 := do
  let n ← Text.Decimal.parse? cs
  if n < 256 ∧ Text.Decimal.digits n = cs then some (UInt8.ofNat n) else none

def parse? (cs : List Char) : Option V4 :=
  match cs.splitOn '.' with
  | [a, b, c, d] => do return ⟨← part? a, ← part? b, ← part? c, ← part? d⟩
  | _ => none

def toList (address : V4) : List UInt8 := [address.a, address.b, address.c, address.d]

def render (address : V4) : String :=
  ".".intercalate (address.toList.map fun part => toString part.toNat)

end V4

namespace V6

def group? (cs : List Char) : Option UInt16 :=
  if cs.isEmpty || 4 < cs.length then none
  else do
    let values ← cs.mapM fun c => Text.hexValue? c.toNat
    return UInt16.ofNat (values.foldl (fun n value => 16 * n + value) 0)

def joined (high low : UInt8) : UInt16 := UInt16.ofNat (256 * high.toNat + low.toNat)

/-- The last piece of a text may be an IPv4 address, which stands for two groups. -/
def lastGroups? (cs : List Char) : Option (List UInt16) :=
  match V4.parse? cs with
  | some ⟨a, b, c, d⟩ => some [joined a b, joined c d]
  | none => (group? cs).map ([·])

def groupsOfPieces? : List (List Char) → Option (List UInt16)
  | [] => some []
  | [piece] => lastGroups? piece
  | piece :: more => do return (← group? piece) :: (← groupsOfPieces? more)

def groups? (cs : List Char) : Option (List UInt16) :=
  if cs.isEmpty then some [] else groupsOfPieces? (cs.splitOn ':')

def frontGroups? (cs : List Char) : Option (List UInt16) :=
  if cs.isEmpty then some [] else (cs.splitOn ':').mapM group?

def cutGap? : List Char → Option (List Char × List Char)
  | ':' :: ':' :: rest => some ([], rest)
  | c :: cs => (cutGap? cs).map fun (front, back) => (c :: front, back)
  | [] => none

def ofGroups? (groups : List UInt16) : Option V6 :=
  if h : groups.toArray.size = 8 then some ⟨⟨groups.toArray, h⟩⟩ else none

def fillGap? (front back : List UInt16) : Option V6 :=
  if front.length + back.length < 8 then
    ofGroups? (front ++ List.replicate (8 - (front.length + back.length)) 0 ++ back)
  else none

def parse? (cs : List Char) : Option V6 := do
  match cutGap? cs with
  | none => ofGroups? (← groups? cs)
  | some (front, back) => fillGap? (← frontGroups? front) (← groups? back)

def leadingZeros (groups : List UInt16) : Nat := (groups.takeWhile (· == 0)).length

/-- Where the longest run of zeros begins and how long it is; of equal runs the first counts. -/
def longestRun : List UInt16 → Nat × Nat
  | [] => (0, 0)
  | g :: groups =>
    let later := longestRun groups
    if later.2 ≤ leadingZeros (g :: groups) then (0, leadingZeros (g :: groups))
    else (later.1 + 1, later.2)

def renderGroups (groups : List UInt16) : String :=
  ":".intercalate (groups.map fun g => String.ofList (Text.hexDigits g.toNat))

def mapped? (address : V6) : Option V4 :=
  match address.groups.toList with
  | [0, 0, 0, 0, 0, 0xffff, g, h] =>
    some ⟨(g >>> 8).toUInt8, g.toUInt8, (h >>> 8).toUInt8, h.toUInt8⟩
  | _ => none

def render (address : V6) : String :=
  match address.mapped? with
  | some mapped => "::ffff:" ++ mapped.render
  | none =>
    let groups := address.groups.toList
    let (start, length) := longestRun groups
    if 1 < length then
      renderGroups (groups.take start) ++ "::" ++ renderGroups (groups.drop (start + length))
    else renderGroups groups

end V6

namespace Address

def parse? (s : String) : Option Address :=
  match V4.parse? s.toList with
  | some address => some (.v4 address)
  | none => (V6.parse? s.toList).map .v6

def render : Address → String
  | v4 address => address.render
  | v6 address => address.render

def isV6 : Address → Bool
  | v4 _ => false
  | v6 _ => true

def unspecified : Address := .v4 ⟨0, 0, 0, 0⟩

end Address

structure Socket where
  address : Address
  port : UInt16
  deriving DecidableEq

namespace Socket

def render (socket : Socket) : String :=
  match socket.address with
  | .v4 address => address.render ++ ":" ++ toString socket.port.toNat
  | .v6 address => "[" ++ address.render ++ "]:" ++ toString socket.port.toNat

end Socket

def port? (s : String) : Option UInt16 :=
  (Text.Decimal.parseBelow? UInt16.size s.toList).map UInt16.ofNat

end Gatehouse.Net
