import Gatehouse.Json.Number
import Gatehouse.Json.Text

/-! Passing by a value of any shape and depth. The lists and objects that are still open are kept on
a stack. -/

namespace Gatehouse.Json.Reader

inductive Frame where
  | list
  | object
  deriving DecidableEq

namespace Frame

def closing : Frame → Char
  | list => ']'
  | object => '\x7d'

def endInside : Frame → Problem
  | list => .endInList
  | object => .endInObject

def expectedComma : Frame → Problem
  | list => .expectedListComma
  | object => .expectedObjectComma

end Frame

def colon : Reader Unit := do
  match ← peekSolid? with
  | some ':' => advance
  | some _ => failAhead .expectedColon
  | none => failAhead .endInObject

def skipKey : Reader Unit := do
  match ← peekSolid? with
  | some '"' => do
    advance
    skipText
    colon
  | some _ => failAhead .keyNotText
  | none => failAhead .endInObject

def enterValue : Frame → Reader Unit
  | .list => return
  | .object => skipKey

inductive Stage where
  | before
  | behind
  deriving DecidableEq

def skipOpening (frame : Frame) (frames : List Frame) : Reader (Stage × List Frame) := do
  advance
  match ← peekSolid? with
  | none => failAhead frame.endInside
  | some c =>
    if c = frame.closing then do
      advance
      return (.behind, frames)
    else do
      enterValue frame
      return (.before, frame :: frames)

def skipLiteral (letters : List Char) : Reader Unit := do
  advance
  literal letters

def skipValueStep (frames : List Frame) : Reader (Stage × List Frame) := do
  match ← peekSolid? with
  | none => failAhead .endInValue
  | some '[' => skipOpening .list frames
  | some '\x7b' => skipOpening .object frames
  | some '"' => do advance; skipText; return (.behind, frames)
  | some 'n' => do skipLiteral ['u', 'l', 'l']; return (.behind, frames)
  | some 't' => do skipLiteral ['r', 'u', 'e']; return (.behind, frames)
  | some 'f' => do skipLiteral ['a', 'l', 's', 'e']; return (.behind, frames)
  | some c =>
    if c = '-' || Text.Decimal.isDigit c then do skipNumber; return (.behind, frames)
    else failAhead .expectedValue

def skipBehindStep (frame : Frame) (frames : List Frame) : Reader (Stage × List Frame) := do
  match ← peekSolid? with
  | none => failAhead frame.endInside
  | some c =>
    if c = ',' then do
      advance
      enterValue frame
      return (.before, frame :: frames)
    else if c = frame.closing then do
      advance
      return (.behind, frames)
    else failAhead frame.expectedComma

def skipStep : Stage × List Frame → Reader (Turn (Stage × List Frame))
  | (.before, frames) => do
    match ← skipValueStep frames with
    | (.behind, []) => return .last (.behind, [])
    | state => return .more state
  | (.behind, frame :: frames) => do
    match ← skipBehindStep frame frames with
    | (.behind, []) => return .last (.behind, [])
    | state => return .more state
  | (.behind, []) => return .last (.behind, [])

def skipValue : Reader Unit := do
  let _ ← iterate skipStep (.before, [])

end Gatehouse.Json.Reader
