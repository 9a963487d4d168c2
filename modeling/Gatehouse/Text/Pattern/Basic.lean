/-! Patterns, that is regular expressions, as trees that follow their spelling. Only what decides
whether a pattern can be used is kept: of a repetition not how often, of a named set not which. -/

namespace Gatehouse.Text

namespace Pattern

inductive Flag where
  | caseless
  | multiLine
  | dotAll
  | lazy
  | unicode
  | carriageReturns
  | verbose
  deriving DecidableEq

namespace Flag

def ofLetter? : Char → Option Flag
  | 'i' => some caseless
  | 'm' => some multiLine
  | 's' => some dotAll
  | 'U' => some lazy
  | 'u' => some unicode
  | 'R' => some carriageReturns
  | 'x' => some verbose
  | _ => none

end Flag

abbrev Switches := List (Flag × Bool)

structure Literal where
  char : Char
  isByte : Bool
  deriving DecidableEq

inductive Atom where
  | literal (literal : Literal)
  | dot
  | textEdge
  | wordEdge
  | shorthand (negated : Bool)
  | property
  deriving DecidableEq

inductive Members where
  | empty
  | literal (literal : Literal)
  | range (first last : Literal)
  | ascii (negated : Bool)
  | shorthand (negated : Bool)
  | property
  | bracketed (negated : Bool) (members : Members)
  | union (parts : List Members)
  | operation (left right : Members)

end Pattern

/-- A pattern; groups and brackets are kept as they stand. -/
inductive Pattern where
  | empty
  | atom (atom : Pattern.Atom)
  | bracketed (negated : Bool) (members : Pattern.Members)
  | switch (switches : Pattern.Switches)
  | repetition (body : Pattern)
  | group (switches : Pattern.Switches) (body : Pattern)
  | sequence (parts : List Pattern)
  | choice (branches : List Pattern)

namespace Pattern

def Members.ofParts : List Members → Members
  | [] => empty
  | [part] => part
  | parts => union parts

def ofParts : List Pattern → Pattern
  | [] => empty
  | [part] => part
  | parts => sequence parts

mutual

def Members.depth : Members → Nat
  | .bracketed _ members => members.depth + 1
  | .union parts => Members.deepest parts + 1
  | .operation left right => max left.depth right.depth + 1
  | _ => 0

def Members.deepest : List Members → Nat
  | [] => 0
  | part :: parts => max part.depth (Members.deepest parts)

end

mutual

def depth : Pattern → Nat
  | .bracketed _ members => members.depth + 1
  | .repetition body => body.depth + 1
  | .group _ body => body.depth + 1
  | .sequence parts => deepest parts + 1
  | .choice branches => deepest branches + 1
  | _ => 0

def deepest : List Pattern → Nat
  | [] => 0
  | part :: parts => max part.depth (deepest parts)

end

end Pattern

end Gatehouse.Text
