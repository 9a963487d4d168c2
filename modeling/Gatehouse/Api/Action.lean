import Gatehouse.Api.Param
import Gatehouse.Http.MediaType

/-! What the service is asked to do. A request is admitted or rejected before any state is touched;
the two routes are tried in turn, each with its checks in its own order. -/

namespace Gatehouse.Api

open Http

inductive Action where
  | health
  | update (id : ResourceId) (request : TokenUpdate)

def maxBodyBytes : Nat := 16384

def segment (name : String) (path : Path) : Except Rejection Path :=
  match path.step? name with
  | some rest => .ok rest
  | none => .error .notFound

def atEnd (path : Path) : Except Rejection Unit :=
  if path.isEmpty then .ok () else .error .notFound

def methodIs (name : String) (request : Request) : Except Rejection Unit :=
  if request.method = name then .ok () else .error (.of .methodNotAllowed)

def checkLength (request : Request) : Except Rejection Unit :=
  match request.contentLength? with
  | none => .error (.of .lengthRequired)
  | some length => if length ≤ maxBodyBytes then .ok () else .error (.of .payloadTooLarge)

def checkType (request : Request) : Except Rejection Unit :=
  match request.headers.get? "content-type" with
  -- A body without a declared type is taken for JSON.
  | none => .ok ()
  | some value =>
    if MediaType.parse? value = some MediaType.json then .ok ()
    else .error (.of .unsupportedMediaType)

def readBody (request : Request) : Except Rejection TokenUpdate :=
  match TokenUpdate.reader.decode request.body with
  | .ok update => .ok update
  | .error error => .error (.of (.unreadableBody error))

def healthAction (request : Request) : Except Rejection Action := do
  let path ← segment "health" request.path
  atEnd path
  methodIs "GET" request
  return .health

def updateAction (request : Request) : Except Rejection Action := do
  methodIs "PATCH" request
  let path ← segment "users" request.path
  let (id, path) ← Param.take .uuid path
  let path ← segment "fcm-token" path
  atEnd path
  checkLength request
  checkType request
  return .update id (← readBody request)

/-- The health route is tried first; where both refuse, the causes of the later one come first. -/
def action (request : Request) : Except Rejection Action :=
  match healthAction request with
  | .ok action => .ok action
  | .error first =>
    match updateAction request with
    | .ok action => .ok action
    | .error second => .error (second.combine first)

end Gatehouse.Api
