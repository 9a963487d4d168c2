import Gatehouse.Json.Record

/-! Values of any kind, kept as they are read: the members of an object stay in their order, also
where a name occurs twice. A complaint about a tree has no place, because the input is no longer at
hand. -/

namespace Gatehouse.Json

inductive Tree where
  | null
  | boolean (value : Bool)
  | number (value : Number)
  | text (value : String)
  | list (items : List Tree)
  | object (members : List (String × Tree))

namespace Tree

open Reader

def memberStep (value : Reader Tree) (state : Bool × List (String × Tree)) :
    Reader (Turn (Bool × List (String × Tree))) := do
  match ← Record.nextKey? state.1 with
  | none => return .last state
  | some name => do
    colon
    return .more (false, state.2 ++ [(name, ← value)])

def members (value : Reader Tree) : Reader (List (String × Tree)) := do
  return (← iterate (memberStep value) (true, [])).2

/-- Reads a value whose lists and objects are read by `enter`, from their opening bracket on. -/
def readerWith (enter : Char → Reader Tree) : Reader Tree := do
  match ← peekSolid? with
  | none => failAhead .endInValue
  | some '"' => do
    advance
    return .text (← Reader.text)
  | some 'n' => do skipLiteral ['u', 'l', 'l']; return .null
  | some 't' => do skipLiteral ['r', 'u', 'e']; return .boolean true
  | some 'f' => do skipLiteral ['a', 'l', 's', 'e']; return .boolean false
  | some '[' => enter '['
  | some '\x7b' => enter '\x7b'
  | some c =>
    if c = '-' || Text.Decimal.isDigit c then do return .number (← Reader.number)
    else failAhead .expectedValue

def reader : Nat → Reader Tree
  | 0 => readerWith fun _ => failAhead .tooDeep
  | depth + 1 => readerWith fun opening => do
    advance
    if opening = '[' then closedBy (do return .list (← elements (reader depth))) closeList
    else closedBy (do return .object (← members (reader depth))) closeObject

def text? : Tree → Option String
  | text value => some value
  | _ => none

def isNull : Tree → Bool
  | null => true
  | _ => false

def isVoid : Tree → Bool
  | null => true
  | object [] => true
  | _ => false

def found : Tree → Found
  | null => .null
  | boolean value => .boolean value
  | number value => value.found
  | text value => .text value
  | list _ => .list
  | object _ => .object

def mismatch (tree : Tree) (expected : String) : Except Problem α :=
  .error (.wrongType tree.found expected)

def asText : Tree → Except Problem String
  | text value => .ok value
  | tree => tree.mismatch "a string"

def asOption (as : Tree → Except Problem α) : Tree → Except Problem (Option α)
  | null => .ok none
  | tree => do return some (← as tree)

def asList (as : Tree → Except Problem α) : Tree → Except Problem (List α)
  | list items => items.mapM as
  | tree => tree.mismatch "a sequence"

def lookup (known : List (String × α)) (name : String) : Except Problem α :=
  match List.lookup name known with
  | some a => .ok a
  | none => .error (.unknownVariant name (known.map (·.1)))

/-- One of several names: a text, or the only key of an object whose value is a `unit`. -/
def asChoice (isUnit : Tree → Bool) (known : List (String × α)) : Tree → Except Problem α
  | text name => lookup known name
  | object [(name, value)] => do
    let a ← lookup known name
    if isUnit value then .ok a else value.mismatch "unit"
  | object _ => .error (.wrongValue .object "map with a single key")
  | tree => tree.mismatch "string or map"

end Tree

end Gatehouse.Json
