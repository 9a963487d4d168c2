import Gatehouse.Log.Limit
import Gatehouse.Text.Alphanumeric
import Gatehouse.Text.Blank
import Gatehouse.Text.Pattern
import Gatehouse.Text.Slice

/-! Directives of a filter: a limit alone, or one for a target, an activity and a field, as in
`server[run{bind}]=info`. A part that is not given restricts nothing. -/

namespace Gatehouse.Log

structure FieldTest where
  name : String
  asksValue : Bool

namespace FieldTest

def isValue (cs : List Char) : Bool :=
  Text.isPattern cs ||
    match cs with
    | '+' :: digits => Text.Decimal.isReal digits
    | _ => false

/-- A name, with a value behind an equals sign if need be; what a second such sign is followed by
does not matter. -/
def parse? (s : String) : Option FieldTest :=
  match s.toList.splitOn '=' with
  | name :: value :: _ => if isValue value then some ⟨String.ofList name, true⟩ else none
  | _ => if s.isEmpty then none else some ⟨s, false⟩

end FieldTest

inductive Flaw where
  | unreadable
  | brokenCut (cut : Text.BrokenCut)
  deriving DecidableEq

namespace Flaw

def orUnreadable : Option α → Except Flaw α
  | some a => .ok a
  | none => .error .unreadable

end Flaw

/-- A limit for the targets that begin with some text, within an activity and where a field is
there if those are given. -/
structure Directive where
  target : String
  activity : Option String
  field : Option FieldTest
  limit : Limit

namespace Directive

def ofLimit (limit : Limit) : Directive := ⟨"", none, none, limit⟩

def isOpening (c : Char) : Bool :=
  Text.isAlphanumeric c || c == '-' || c == ':' || c == '_'

/-- The piece of a directive as it is given that stands where a part of it stands once the blanks at
its ends are gone: leading blanks move the cut to the left of that part. -/
def cut (given : List Char) (start : Nat) (part : List Char) : Except Flaw String :=
  (Text.slice given start (start + Text.byteLength part)).mapError .brokenCut

def limitFrom (given : List Char) (start : Nat) : Except Flaw Limit := do
  let s ← (Text.slice given start (Text.byteLength given)).mapError .brokenCut
  if s.isEmpty then .ok Limit.all else Flaw.orUnreadable (Limit.parse? s)

def limitBehind (given : List Char) (start : Nat) : List Char → Except Flaw Limit
  | [] => .ok Limit.all
  | '=' :: _ => limitFrom given (start + 1)
  | _ => .error .unreadable

def withField (given : List Char) (target : String) (activity : Option String) (start : Nat)
    (rest : List Char) : Except Flaw Directive := do
  let inside := rest.takeWhile (· != '\x7d')
  match rest.drop inside.length with
  | _ :: rest => do
    let field ← Flaw.orUnreadable (FieldTest.parse? (← cut given start inside))
    match rest with
    | ']' :: rest => do
      let limit ← limitBehind given (start + Text.byteLength inside + 2) rest
      return ⟨target, activity, some field, limit⟩
    | _ => .error .unreadable
  | [] => .error .unreadable

def withScope (given : List Char) (target : String) (start : Nat) (rest : List Char) :
    Except Flaw Directive := do
  let name := rest.takeWhile fun c => c != ']' && c != '\x7b'
  let behind := start + Text.byteLength name + 1
  match rest.drop name.length with
  | ']' :: rest => do
    let activity ← cut given start name
    return ⟨target, some activity, none, ← limitBehind given behind rest⟩
  | _ :: rest => do
    let activity ← cut given start name
    withField given target (if activity.isEmpty then none else some activity) behind rest
  | [] => .error .unreadable

def ofWord (s : String) : Directive :=
  match Limit.parse? s with
  | some limit => ofLimit limit
  -- A word that is no level is a target whose events all pass.
  | none => ⟨s, none, none, Limit.all⟩

def parse (s : String) : Except Flaw Directive := do
  let given := s.toList
  match Text.trim given with
  | [] => .error .unreadable
  | '[' :: rest => withScope given "" 1 rest
  | c :: cs => do
    if !isOpening c then .error .unreadable
    else
      let name := (c :: cs).takeWhile fun c => c != '=' && c != '['
      let behind := Text.byteLength name + 1
      match (c :: cs).drop name.length with
      | [] => return ofWord s
      | '=' :: _ => do
        let target ← cut given 0 name
        return ⟨target, none, none, ← limitFrom given behind⟩
      | _ :: rest => do withScope given (← cut given 0 name) behind rest

def isScoped (d : Directive) : Bool := d.activity.isSome || d.field.isSome

def isPlain (d : Directive) : Bool := d.activity.isNone && !d.field.any (·.asksValue)

def matchesTarget (d : Directive) (target : String) : Bool :=
  d.target.toList.isPrefixOf target.toList

def matchesFields (d : Directive) (names : List String) : Bool :=
  d.field.all fun field => names.contains field.name

def matchesActivity (d : Directive) (activity : Activity) : Bool :=
  d.matchesTarget activity.target && d.activity.all (· == activity.name) &&
    d.matchesFields (activity.fields.map (·.name))

def fieldName (d : Directive) : String := (d.field.map (·.name)).getD ""

/-- Whether one directive is more specific than another: its target is longer, or as long and its
field comes later in the order of names. -/
def isAbove (d other : Directive) : Bool :=
  if d.target.length = other.target.length then decide (other.fieldName < d.fieldName)
  else other.target.length < d.target.length

end Directive

end Gatehouse.Log
