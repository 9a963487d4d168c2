import Gatehouse.Text.Inspect

/-! The refusal of a value that has not the form a gate asks for. The value is carried as it came,
so that whoever sent it sees what was refused. -/

namespace Gatehouse

structure Malformed where
  expected : String
  value : String
  deriving DecidableEq

namespace Malformed

def message (m : Malformed) : String := "Invalid " ++ m.expected ++ " format: " ++ m.value

def inspect (m : Malformed) : Text.Inspect :=
  .record "MalformedInput" [("expected", .text m.expected), ("value", .text m.value)]

end Malformed

end Gatehouse
