import Gatehouse.Json.FieldValue

/-! Records of named fields, read into a draft that is finished once nothing more follows. A record
is an object, whose members come in any order and may have unknown names, or a list of the fields
in the order of their declaration. -/

namespace Gatehouse.Json

structure Field (σ : Type) where
  name : String
  mayLack : Bool
  isSet : σ → Bool
  read : σ → Reader σ

/-- A kind of record: `finish` turns a draft into a value or names a field it lacks. -/
structure Record (σ α : Type) where
  name : String
  fields : List (Field σ)
  blank : σ
  finish : σ → Except String α

namespace Record

def expected (r : Record σ α) : String := "struct " ++ r.name

def expectedList (r : Record σ α) : String :=
  r.expected ++ " with " ++ toString r.fields.length ++
    if r.fields.length = 1 then " element" else " elements"

def field? (r : Record σ α) (name : String) : Option (Field σ) :=
  r.fields.find? fun field => field.name == name

def finished (r : Record σ α) (draft : σ) : Reader α :=
  match r.finish draft with
  | .ok a => return a
  | .error name => .complain (.missingField name)

open Reader

def key : Reader (Option String) := do
  advance
  return some (← text)

def nextKey? (isFirst : Bool) : Reader (Option String) := do
  match ← peekSolid? with
  | none => failAhead .endInObject
  | some '\x7d' => return none
  | some c =>
    if isFirst then
      if c = '"' then key else failAhead .keyNotText
    else if c = ',' then do
      advance
      match ← peekSolid? with
      | none => failAhead .endInValue
      | some '"' => key
      | some '\x7d' => failAhead .trailingComma
      | some _ => failAhead .keyNotText
    else failAhead .expectedObjectComma

/-- Reads the value of a key into the draft; a value under an unknown key is passed by. -/
def member (r : Record σ α) (draft : σ) (name : String) : Reader σ := do
  match r.field? name with
  | none => do
    colon
    skipValue
    return draft
  | some field =>
    if field.isSet draft then complain (.duplicateField field.name)
    else do
      colon
      field.read draft

def memberStep (r : Record σ α) (state : Bool × σ) : Reader (Turn (Bool × σ)) := do
  match ← nextKey? state.1 with
  | none => return .last state
  | some name => do return .more (false, ← r.member state.2 name)

def object (r : Record σ α) : Reader α := do
  let state ← iterate r.memberStep (true, r.blank)
  r.finished state.2

def elements (r : Record σ α) : Nat → List (Field σ) → σ → Reader σ
  | _, [], draft => return draft
  | n, field :: fields, draft => do
    if ← nextElement? (n == 0) then do
      let draft ← field.read draft
      elements r (n + 1) fields draft
    else if field.mayLack then elements r (n + 1) fields draft
    else complain (.wrongLength n r.expectedList)

def list (r : Record σ α) : Reader α := do
  let draft ← r.elements 0 r.fields r.blank
  r.finished draft

def reader (r : Record σ α) : Reader α := settle do
  match ← peekSolid? with
  | none => failAhead .endInValue
  | some '[' => do
    advance
    closedBy r.list closeList
  | some '\x7b' => do
    advance
    closedBy r.object closeObject
  | some _ => wrongType r.expected

end Record

end Gatehouse.Json
