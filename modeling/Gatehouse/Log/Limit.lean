import Gatehouse.Log
import Gatehouse.Text.Decimal

/-! How much is logged: up to some level, or nothing. -/

namespace Gatehouse.Log

/-- The most talkative level that passes; `none` passes nothing. -/
abbrev Limit := Option Level

namespace Limit

def all : Limit := some .trace

def ofRank? : Nat → Option Limit
  | 0 => some none
  | 1 => some (some .error)
  | 2 => some (some .warn)
  | 3 => some (some .info)
  | 4 => some (some .debug)
  | 5 => some (some .trace)
  | _ => none

def parse? (s : String) : Option Limit :=
  match s.toLower with
  | "off" => some none
  | "error" => some (some .error)
  | "warn" => some (some .warn)
  | "info" => some (some .info)
  | "debug" => some (some .debug)
  | "trace" => some (some .trace)
  | _ => (Text.Decimal.parseBelow? 6 s.toList).bind ofRank?

def passes (limit : Limit) (level : Level) : Bool :=
  match limit with
  | none => false
  | some most => level.rank ≤ most.rank

end Limit

end Gatehouse.Log
