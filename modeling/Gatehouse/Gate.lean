import Gatehouse.Malformed
import Gatehouse.Uuid

/-! Gates over a single text. A gate is one check or a chain of gates; a chain is left at the first
refusal, which is the refusal of the whole. -/

namespace Gatehouse

structure Check where
  tag : Option String
  objection : String → Option Malformed

inductive Gate where
  | check (test : Check)
  | chain (gates : List Gate)

/-- What a text met on its way: the checks made, in order, and the refusal that ended it. -/
structure Passage where
  trail : List Check
  refusal : Option Malformed

namespace Gate

mutual

def pass (s : String) : Gate → Passage
  | .check test => ⟨[test], test.objection s⟩
  | .chain gates => passAll s gates

def passAll (s : String) : List Gate → Passage
  | [] => ⟨[], none⟩
  | gate :: gates =>
    match pass s gate with
    | ⟨trail, some refusal⟩ => ⟨trail, some refusal⟩
    | ⟨trail, none⟩ => ⟨trail ++ (passAll s gates).trail, (passAll s gates).refusal⟩

end

def ofObjection (objection : String → Option Malformed) : Gate := .check ⟨none, objection⟩

def refuseIf (expected : String) (bad : String → Bool) : Gate :=
  ofObjection fun s => if bad s then some ⟨expected, s⟩ else none

def uuid (rule : Uuid.Rule) : Gate := refuseIf "UUID" fun s => !rule.accepts s

def mark (tag : String) : Gate := .check ⟨some tag, fun _ => none⟩

end Gate

structure Pipeline where
  gates : List Gate

namespace Pipeline

def empty : Pipeline := ⟨[]⟩

def push (p : Pipeline) (gate : Gate) : Pipeline := ⟨p.gates ++ [gate]⟩

def uuid : Pipeline := empty.push (.uuid .standard)

def size (p : Pipeline) : Nat := p.gates.length

def isEmpty (p : Pipeline) : Bool := p.gates.isEmpty

def toGate (p : Pipeline) : Gate := .chain p.gates

def pass (p : Pipeline) (s : String) : Passage := Gate.passAll s p.gates

def check (p : Pipeline) (s : String) : Except Malformed Unit :=
  match (p.pass s).refusal with
  | some refusal => .error refusal
  | none => .ok ()

def run (p : Pipeline) (s : String) : Except Malformed String := do
  p.check s
  return s

def inspect (p : Pipeline) : Text.Inspect := .record "Pipeline" [("gates", .number p.size)]

end Pipeline

def validateUuid (s : String) : Except Malformed String :=
  if Uuid.Rule.standard.accepts s then .ok s else .error ⟨"UUID", s⟩

end Gatehouse
