import Gatehouse.Text.Hex
import Gatehouse.Text.Utf8

/-! UUIDs and the four forms in which they can be read, their hexadecimal digits of either case, and
the rules that say which texts are let through. Every rule wants the hyphenated form of eight, four,
four, four and twelve digits, which it tells from the others by its length. -/

namespace Gatehouse

structure Uuid where
  octets : Vector UInt8 16
  deriving DecidableEq

namespace Uuid

def readOctets : Nat → List Char → Option (List UInt8 × List Char)
  | 0, cs => some ([], cs)
  | n + 1, high :: low :: cs => do
    let octet ← Text.octet? high.toNat low.toNat
    let (octets, rest) ← readOctets n cs
    return (octet :: octets, rest)
  | _ + 1, _ => none

def readGroups : List Nat → List Char → Option (List UInt8 × List Char)
  | [], cs => some ([], cs)
  | [n], cs => readOctets n cs
  | n :: sizes, cs => do
    let (octets, '-' :: rest) ← readOctets n cs | none
    let (more, rest) ← readGroups sizes rest
    return (octets ++ more, rest)

def groupSizes : List Nat := [4, 2, 2, 2, 6]

def ofReading? : List UInt8 × List Char → Option Uuid
  | (octets, []) => if h : octets.toArray.size = 16 then some ⟨⟨octets.toArray, h⟩⟩ else none
  | _ => none

def simple? (cs : List Char) : Option Uuid := (readOctets 16 cs).bind ofReading?

def hyphenated? (cs : List Char) : Option Uuid := (readGroups groupSizes cs).bind ofReading?

def braced? : List Char → Option Uuid
  | '\x7b' :: cs => if cs.getLast? = some '\x7d' then hyphenated? cs.dropLast else none
  | _ => none

def urnMark : List Char := "urn:uuid:".toList

def urn? (cs : List Char) : Option Uuid :=
  if urnMark.isPrefixOf cs then hyphenated? (cs.drop urnMark.length) else none

/-- Reads any of the forms, told apart by how many bytes they have. -/
def parse? (s : String) : Option Uuid :=
  match (Text.Utf8.encode s).length with
  | 32 => simple? s.toList
  | 36 => hyphenated? s.toList
  | 38 => braced? s.toList
  | 45 => urn? s.toList
  | _ => none

def hyphenatedLength : Nat := 36

def version (u : Uuid) : UInt8 := u.octets[6] >>> 4

def isRfc4122 (u : Uuid) : Bool := u.octets[8] >>> 6 == 2

inductive Rule where
  | any
  | rfc4122
  | version (number : UInt8)
  deriving DecidableEq

namespace Rule

def standard : Rule := .rfc4122

def admits : Rule → Uuid → Bool
  | any, _ => true
  | rfc4122, u => u.isRfc4122 && 1 ≤ u.version && u.version ≤ 5
  | version n, u => u.isRfc4122 && u.version == n

def accepts (rule : Rule) (s : String) : Bool :=
  (Text.Utf8.encode s).length == hyphenatedLength && (parse? s).any rule.admits

def name : Rule → String
  | any => "Any"
  | rfc4122 => "Rfc4122"
  | version n => "Version(" ++ toString n.toNat ++ ")"

end Rule

end Uuid

end Gatehouse
