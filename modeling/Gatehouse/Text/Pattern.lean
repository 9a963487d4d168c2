import Gatehouse.Text.Pattern.Read
import Gatehouse.Text.Pattern.Support

/-! Which texts are patterns, that is regular expressions that can be used: they can be read, they
are not nested too deeply, and all of their parts are supported. What a pattern matches is not
decided here. -/

namespace Gatehouse.Text

namespace Pattern

def maxDepth : Nat := 250

def isUsable (pattern : Pattern) : Bool :=
  pattern.depth ≤ maxDepth && (pattern.after? .initial).isSome

end Pattern

def isPattern (cs : List Char) : Bool := (Pattern.parse? cs).any (·.isUsable)

end Gatehouse.Text
