import Gatehouse.Device
import Gatehouse.Gate
import Gatehouse.Http.Rejection
import Gatehouse.Http.Request
import Gatehouse.Text.Percent

/-! Path parameters. A segment is decoded once and then has to pass a pipeline; one that does not
decode to text is refused as it stands, whatever the pipeline. -/

namespace Gatehouse.Api.Param

def decode (segment : String) : Except Malformed String :=
  match Text.Percent.decodeText? segment with
  | some value => .ok value
  | none => .error ⟨"UUID", segment⟩

def accept (pipeline : Pipeline) (segment : String) : Except Malformed ResourceId := do
  let value ← decode segment
  return ⟨← pipeline.run value⟩

/-- Takes the next segment as a parameter; an empty one is no parameter. -/
def take (pipeline : Pipeline) (path : Http.Path) :
    Except Http.Rejection (ResourceId × Http.Path) :=
  let (segment, rest) := path.next
  if segment.isEmpty then .error .notFound
  else
    match accept pipeline (String.ofList segment) with
    | .ok id => .ok (id, rest)
    | .error malformed => .error (.of (.api (.malformed malformed)))

end Gatehouse.Api.Param
