import Gatehouse.Api.Recover
import Gatehouse.Api.Action
import Gatehouse.Api.Service

/-! A route that answers with the parameter it was given, for services that gate their own paths by
a pipeline: `things`, then the parameter. -/

namespace Gatehouse.Api.Thing

open Http

def take (pipeline : Pipeline) (request : Request) : Except Rejection (ResourceId × Path) := do
  let path ← segment "things" request.path
  Param.take pipeline path

def respond (recovers : Bool) (pipeline : Pipeline) (request : Request) :
    Reply × List Log.Event :=
  let admitted : Except Rejection ResourceId := do
    let (id, rest) ← take pipeline request
    atEnd rest
    return id
  match admitted with
  | .ok id => (⟨.ok, .plain id.text⟩, [])
  | .error rejection => Service.refuse recovers rejection

end Gatehouse.Api.Thing
