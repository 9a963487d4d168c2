import Gatehouse.Json.Number
import Gatehouse.Json.Skip
import Gatehouse.Json.Text

/-! Readers for the values that fields hold: texts, 64-bit integers, optional values, one of several
names, and lists of texts. -/

namespace Gatehouse.Json.Reader

/-- Reads whatever stands there and complains that it is not what was expected. Lists and objects
are told without being read. -/
def wrongType (expected : String) : Reader α := do
  match ← peek? with
  | some 'n' => do skipLiteral ['u', 'l', 'l']; fail (.wrongType .null expected)
  | some 't' => do skipLiteral ['r', 'u', 'e']; fail (.wrongType (.boolean true) expected)
  | some 'f' => do skipLiteral ['a', 'l', 's', 'e']; fail (.wrongType (.boolean false) expected)
  | some '"' => do
    advance
    let s ← text
    fail (.wrongType (.text s) expected)
  | some '[' => fail (.wrongType .list expected)
  | some '\x7b' => fail (.wrongType .object expected)
  | some c =>
    if c = '-' || Text.Decimal.isDigit c then do
      let n ← number
      fail (.wrongType n.found expected)
    else failAhead .expectedValue
  | none => failAhead .expectedValue

def string : Reader String := do
  match ← peekSolid? with
  | none => failAhead .endInValue
  | some '"' => do
    advance
    text
  | some _ => wrongType "a string"

def asInt64 : Number → Except Problem Int64
  | .integer n =>
    if Int64.minValue.toInt ≤ n ∧ n ≤ Int64.maxValue.toInt then .ok (Int64.ofInt n)
    else .error (.wrongValue (.integer n) "i64")
  | .real x => .error (.wrongType (Number.real x).found "i64")

def int64 : Reader Int64 := do
  match ← peekSolid? with
  | none => failAhead .endInValue
  | some c =>
    if c = '-' || Text.Decimal.isDigit c then do
      match asInt64 (← number) with
      | .ok n => return n
      | .error problem => fail problem
    else wrongType "i64"

def option (x : Reader α) : Reader (Option α) := do
  match ← peekSolid? with
  | some 'n' => do
    skipLiteral ['u', 'l', 'l']
    return none
  | _ => do return some (← x)

def null (expected : String) : Reader Unit := do
  match ← peekSolid? with
  | none => failAhead .endInValue
  | some 'n' => skipLiteral ['u', 'l', 'l']
  | some _ => wrongType expected

def knownName (known : List (String × α)) : Reader α := do
  let name ← text
  match List.lookup name known with
  | some a => return a
  | none => fail (.unknownVariant name (known.map (·.1)))

/-- One of several names: a text, or the only key of an object with the value `null`. -/
def choice (known : List (String × α)) : Reader α := do
  match ← peekSolid? with
  | none => failAhead .endInValue
  | some '"' => do
    advance
    knownName known
  | some '\x7b' => do
    advance
    match ← peekSolid? with
    | none => failAhead .endInObject
    | some '\x7d' => failAhead .expectedValue
    | some '"' => do
      advance
      let a ← knownName known
      colon
      null "unit"
      match ← peekSolid? with
      | none => fail .endInObject
      | some '\x7d' => do
        advance
        return a
      | some _ => fail .expectedValue
    | some _ => failAhead .keyNotText
  | some _ => failAhead .expectedValue

def nextElement? (isFirst : Bool) : Reader Bool := do
  match ← peekSolid? with
  | none => failAhead .endInList
  | some ']' => return false
  | some c =>
    if isFirst then return true
    else if c = ',' then do
      advance
      match ← peekSolid? with
      | none => failAhead .endInValue
      | some ']' => failAhead .trailingComma
      | some _ => return true
    else failAhead .expectedListComma

def closeList : Reader Unit := do
  match ← peekSolid? with
  | none => failAhead .endInList
  | some ']' => advance
  | some ',' => do
    advance
    match ← peekSolid? with
    | some ']' => failAhead .trailingComma
    | _ => failAhead .trailingCharacters
  | some _ => failAhead .trailingCharacters

def closeObject : Reader Unit := do
  match ← peekSolid? with
  | none => failAhead .endInObject
  | some '\x7d' => advance
  | some ',' => failAhead .trailingComma
  | some _ => failAhead .trailingCharacters

def listStep (x : Reader α) (state : Bool × List α) : Reader (Turn (Bool × List α)) := do
  if ← nextElement? state.1 then return .more (false, state.2 ++ [← x]) else return .last state

def elements (x : Reader α) : Reader (List α) := do
  return (← iterate (listStep x) (true, [])).2

def list (x : Reader α) : Reader (List α) := settle do
  match ← peekSolid? with
  | none => failAhead .endInValue
  | some '[' => do
    advance
    closedBy (elements x) closeList
  | some _ => wrongType "a sequence"

/-- Reads what can be read and lets a fault pass; the next reader goes on from where it struck. -/
def attempt (x : Reader α) : Reader (Option α) := fun s =>
  match x s with
  | (.ok a, rest) => (.ok (some a), rest)
  | (.error _, rest) => (.ok none, rest)

end Gatehouse.Json.Reader
