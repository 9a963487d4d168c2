/-! Sets of characters, told by ranges of their code points. -/

namespace Gatehouse.Text

def inRanges (ranges : List (Nat × Nat)) (code : Nat) : Bool :=
  ranges.any fun range => decide (range.1 ≤ code) && decide (code ≤ range.2)

end Gatehouse.Text
