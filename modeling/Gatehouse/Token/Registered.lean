import Gatehouse.Json.Tree
import Gatehouse.Token.Policy

/-! The registered claims of a payload, read leniently: a claim of an unusable shape counts as
absent, and the reading goes on from where the claim was given up. -/

namespace Gatehouse.Token

def names? : Json.Tree → Option (List String)
  | .text value => some [value]
  | .list items => items.mapM Json.Tree.text?
  | _ => none

open Json Json.Reader

def maxDepth : Nat := 126

/-- Seconds as a number of 64 bits; a number with a fraction is rounded. -/
def seconds? : Number → Option Nat
  | .integer n => if 0 ≤ n then some n.toNat else none
  | .real x => if 0 ≤ x && x < 18446744073709551616 then some x.round.toUInt64.toNat else none

def secondsReader : Reader (Option Nat) := do
  match ← peekSolid? with
  | none => failAhead .endInValue
  | some '[' => do
    advance
    closedBy (complain (.wrongType .list "a point in time")) closeList
  | some '\x7b' => do
    advance
    closedBy (complain (.wrongType .object "a point in time")) closeObject
  | some c =>
    if c = '-' || Text.Decimal.isDigit c then do return seconds? (← number)
    else wrongType "a point in time"

def namesReader : Reader (Option (List String)) := do
  match ← option (Tree.reader maxDepth) with
  | none => return none
  | some tree => return names? tree

/-- The registered claims that are present in a usable shape. -/
structure Registered where
  exp : Option Nat
  nbf : Option Nat
  sub : Option String
  iss : Option (List String)
  aud : Option (List String)

namespace Registered

/-- The claims met so far; what is met but unusable is kept as nothing. -/
structure Draft where
  exp : Option (Option Nat)
  nbf : Option (Option Nat)
  sub : Option (Option String)
  iss : Option (Option (List String))
  aud : Option (Option (List String))

def lenient (x : Reader (Option α)) : Reader (Option α) := do
  return (← attempt x).join

def record : Record Draft Registered where
  name := "ClaimsForValidation"
  fields := [
    ⟨"exp", true, (·.exp.isSome), fun d => do
      return { d with exp := some (← lenient secondsReader) }⟩,
    ⟨"nbf", true, (·.nbf.isSome), fun d => do
      return { d with nbf := some (← lenient secondsReader) }⟩,
    ⟨"sub", false, (·.sub.isSome), fun d => do
      return { d with sub := some (← lenient (option string)) }⟩,
    ⟨"iss", false, (·.iss.isSome), fun d => do
      return { d with iss := some (← lenient namesReader) }⟩,
    ⟨"aud", false, (·.aud.isSome), fun d => do
      return { d with aud := some (← lenient namesReader) }⟩]
  blank := ⟨none, none, none, none, none⟩
  finish d := .ok ⟨d.exp.join, d.nbf.join, d.sub.join, d.iss.join, d.aud.join⟩

def reader : Reader Registered := record.reader

def has (claims : Registered) : ClaimName → Bool
  | .exp => claims.exp.isSome
  | .nbf => claims.nbf.isSome
  | .sub => claims.sub.isSome
  | .iss => claims.iss.isSome
  | .aud => claims.aud.isSome

end Registered

end Gatehouse.Token
