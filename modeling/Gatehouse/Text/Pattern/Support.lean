import Gatehouse.Text.Pattern.Basic

/-! Which patterns are supported. Characters count as bytes where the flag for Unicode is off, and
then nothing may match a byte that is no character. Where it is on, no tables of Unicode are at
hand: neither for the sets that shorthands and properties name, nor for the case of characters, nor
for the edges of words. -/

namespace Gatehouse.Text.Pattern

structure Mode where
  caseless : Bool
  unicode : Bool
  deriving DecidableEq

namespace Mode

def initial : Mode := ⟨false, true⟩

def switch (mode : Mode) (switches : Switches) : Mode :=
  ⟨(switches.lookup .caseless).getD mode.caseless, (switches.lookup .unicode).getD mode.unicode⟩

def foldsUnicode (mode : Mode) : Bool := mode.unicode && mode.caseless

end Mode

def isAscii (c : Char) : Bool := c.toNat < 128

def Literal.isSupported (mode : Mode) (literal : Literal) : Bool :=
  !mode.foldsUnicode && (mode.unicode || !literal.isByte || isAscii literal.char)

def Literal.isSupportedInClass (mode : Mode) (literal : Literal) : Bool :=
  !mode.foldsUnicode && (mode.unicode || isAscii literal.char)

def Atom.isSupported (mode : Mode) : Atom → Bool
  | literal l => l.isSupported mode
  | dot => mode.unicode
  | textEdge => true
  | wordEdge => !mode.unicode
  | shorthand negated => !mode.unicode && !negated
  | property => false

mutual

def Members.isSupported (mode : Mode) : Members → Bool
  | .empty => true
  | .literal l => l.isSupportedInClass mode
  | .range first last => first.isSupportedInClass mode && last.isSupportedInClass mode
  | .ascii negated => !mode.foldsUnicode && (mode.unicode || !negated)
  | .shorthand negated => !mode.unicode && !negated
  | .property => false
  | .bracketed negated members => (mode.unicode || !negated) && members.isSupported mode
  | .union parts => Members.allSupported mode parts
  | .operation left right => left.isSupported mode && right.isSupported mode

def Members.allSupported (mode : Mode) : List Members → Bool
  | [] => true
  | part :: parts => part.isSupported mode && Members.allSupported mode parts

end

mutual

/-- The mode in force behind a pattern, if the pattern is supported. -/
def after? (mode : Mode) : Pattern → Option Mode
  | .empty => some mode
  | .atom a => if a.isSupported mode then some mode else none
  | .bracketed negated members =>
    if (mode.unicode || !negated) && members.isSupported mode then some mode else none
  | .switch switches => some (mode.switch switches)
  | .repetition body => body.after? mode
  | .group switches body => (body.after? (mode.switch switches)).map fun _ => mode
  | .sequence parts => afterAll? mode parts
  | .choice branches => afterAll? mode branches

def afterAll? (mode : Mode) : List Pattern → Option Mode
  | [] => some mode
  | part :: parts =>
    match part.after? mode with
    | some mode => afterAll? mode parts
    | none => none

end

end Gatehouse.Text.Pattern
