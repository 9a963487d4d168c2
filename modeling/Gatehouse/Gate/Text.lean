import Gatehouse.Gate
import Gatehouse.Text.Utf8

/-! Gates that look at the letters of a text: what it begins with, ends with or holds, and how long
it is. -/

namespace Gatehouse.Gate

def refusePrefix (expected start : String) : Gate :=
  refuseIf expected fun s => start.toList.isPrefixOf s.toList

def refuseSuffix (expected ending : String) : Gate :=
  refuseIf expected fun s => ending.toList.isSuffixOf s.toList

def occursIn (needle : List Char) : List Char → Bool
  | [] => needle.isEmpty
  | c :: cs => needle.isPrefixOf (c :: cs) || occursIn needle cs

def refuseContaining (expected needle : String) : Gate :=
  refuseIf expected fun s => occursIn needle.toList s.toList

def maxBytes (expected : String) (limit : Nat) : Gate :=
  refuseIf expected fun s => limit < (Text.Utf8.encode s).length

end Gatehouse.Gate
