import Gatehouse.Text.Quoted

/-! Cutting a piece out of a text, at places that are counted in bytes. A place inside a character
is refused. -/

namespace Gatehouse.Text

def byteLength : List Char → Nat
  | [] => 0
  | c :: cs => c.utf8Size + byteLength cs

/-- An end of a cut that lies inside a character, and the place where that character begins. -/
structure BrokenCut where
  isStart : Bool
  place : Nat
  char : Char
  first : Nat
  deriving DecidableEq

namespace BrokenCut

def message (cut : BrokenCut) : String :=
  (if cut.isStart then "start" else "end") ++ " byte index " ++ toString cut.place ++
    " is not a char boundary; it is inside '" ++ String.ofList (Quoted.escape cut.char) ++
    "' (bytes " ++ toString cut.first ++ ".." ++ toString (cut.first + cut.char.utf8Size) ++
    " of string)"

end BrokenCut

def charAround? (place first : Nat) : List Char → Option (Char × Nat)
  | [] => none
  | c :: cs =>
    if place ≤ first then none
    else if place < first + c.utf8Size then some (c, first)
    else charAround? place (first + c.utf8Size) cs

def checkCut (isStart : Bool) (place : Nat) (cs : List Char) : Except BrokenCut Unit :=
  match charAround? place 0 cs with
  | none => .ok ()
  | some (c, first) => .error ⟨isStart, place, c, first⟩

def dropBytes : Nat → List Char → List Char
  | 0, cs => cs
  | _, [] => []
  | n + 1, c :: cs => dropBytes (n + 1 - c.utf8Size) cs

def takeBytes : Nat → List Char → List Char
  | 0, _ => []
  | _, [] => []
  | n + 1, c :: cs => c :: takeBytes (n + 1 - c.utf8Size) cs

/-- The piece of a text between two places; that it begins rightly is looked at first. -/
def slice (cs : List Char) (start stop : Nat) : Except BrokenCut String := do
  checkCut true start cs
  checkCut false stop cs
  return String.ofList (takeBytes (stop - start) (dropBytes start cs))

end Gatehouse.Text
