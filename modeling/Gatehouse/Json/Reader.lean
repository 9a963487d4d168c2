import Gatehouse.Json.Fault

/-! Readers of JSON texts. A reader takes bytes off the front of the input and answers with a value
or a fault; either way it says what is left, because whoever closes a list or an object goes on from
there even after a fault inside. -/

namespace Gatehouse.Json

def Reader (α : Type) := Bytes → Except Fault α × Bytes

namespace Reader

instance : Monad Reader where
  pure a := fun s => (.ok a, s)
  bind x f := fun s =>
    match x s with
    | (.ok a, rest) => f a rest
    | (.error fault, rest) => (.error fault, rest)

def complain (problem : Problem) : Reader α := fun s => (.error ⟨problem, none⟩, s)

def fail (problem : Problem) : Reader α := fun s => (.error ⟨problem, some ⟨s, 0⟩⟩, s)

def failAhead (problem : Problem) : Reader α := fun s =>
  (.error ⟨problem, some ⟨s.tail, 0⟩⟩, s)

def failBehind (problem : Problem) (back : Nat) : Reader α := fun s =>
  (.error ⟨problem, some ⟨s, back⟩⟩, s)

def peek? : Reader (Option Char) := fun s => (.ok (s.head?.map Char.ofUInt8), s)

def advance : Reader Unit := fun s => (.ok (), s.tail)

def next? : Reader (Option Char) := do
  let c ← peek?
  advance
  return c

def takeWhile (p : UInt8 → Bool) : Reader Bytes := fun s => (.ok (s.takeWhile p), s.dropWhile p)

def isBlank (b : UInt8) : Bool := b == 32 || b == 10 || b == 9 || b == 13

def peekSolid? : Reader (Option Char) := do
  let _ ← takeWhile isBlank
  peek?

def literal : List Char → Reader Unit
  | [] => return
  | letter :: letters => do
    match ← next? with
    | none => fail .endInValue
    | some c => if c = letter then literal letters else fail .expectedLiteral

def settle (x : Reader α) : Reader α := fun s =>
  match x s with
  | (.error fault, rest) => (.error (fault.settle rest), rest)
  | answer => answer

/-- Reads the end of a list or an object even after a fault inside, which then stands before any
fault of the end. -/
def closedBy (x : Reader α) (close : Reader Unit) : Reader α := fun s =>
  match x s with
  | (.error fault, rest) => (.error fault, (close rest).2)
  | (.ok a, rest) =>
    match close rest with
    | (.ok (), rest') => (.ok a, rest')
    | (.error fault, rest') => (.error fault, rest')

inductive Turn (σ : Type) where
  | more (state : σ)
  | last (state : σ)

/-- Repeats a step until it is the last; one that reads nothing is the last in any case. -/
def iterate (step : σ → Reader (Turn σ)) (a : σ) (s : Bytes) : Except Fault σ × Bytes :=
  match step a s with
  | (.ok (.more b), rest) =>
    if rest.length < s.length then iterate step b rest else (.ok b, rest)
  | (.ok (.last b), rest) => (.ok b, rest)
  | (.error fault, rest) => (.error fault, rest)
  termination_by s.length

def decode (x : Reader α) (input : Bytes) : Except Error α :=
  let whole : Reader α := do
    let a ← x
    match ← peekSolid? with
    | none => return a
    | some _ => failAhead .trailingCharacters
  match (whole input).1 with
  | .ok a => .ok a
  | .error fault => .error ⟨fault.problem, fault.place.map (Place.position input)⟩

end Reader

end Gatehouse.Json
