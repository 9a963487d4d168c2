import Gatehouse.Api.Error
import Gatehouse.Http.Status
import Gatehouse.Json.Fault

/-! Why a request was not answered by any route. Where two routes refuse it, their causes are kept
side by side; that a path is unknown is no cause and vanishes beside one. -/

namespace Gatehouse.Http

inductive Cause where
  | methodNotAllowed
  | lengthRequired
  | payloadTooLarge
  | unsupportedMediaType
  | unreadableBody (error : Json.Error)
  | api (error : Api.Error)
  | foreign (content : Text.Inspect)

def Cause.status : Cause → Status
  | methodNotAllowed => .methodNotAllowed
  | lengthRequired => .lengthRequired
  | payloadTooLarge => .payloadTooLarge
  | unsupportedMediaType => .unsupportedMediaType
  | unreadableBody _ => .badRequest
  | api _ => .internalServerError
  | foreign _ => .internalServerError

inductive Causes where
  | one (cause : Cause)
  | both (left right : Causes)

namespace Causes

def toList : Causes → List Cause
  | one cause => [cause]
  | both left right => left.toList ++ right.toList

/-- The cause that decides the status: that of the highest rank, the left one of equals. -/
def preferred : Causes → Cause
  | one cause => cause
  | both left right =>
    if left.preferred.status.rank < right.preferred.status.rank then right.preferred
    else left.preferred

end Causes

inductive Rejection where
  | notFound
  | refused (causes : Causes)

namespace Rejection

def of (cause : Cause) : Rejection := .refused (.one cause)

def combine : Rejection → Rejection → Rejection
  | notFound, other => other
  | other, notFound => other
  | refused left, refused right => .refused (.both left right)

def causes : Rejection → List Cause
  | notFound => []
  | refused causes => causes.toList

def apiError? (rejection : Rejection) : Option Api.Error :=
  rejection.causes.findSome? fun
    | .api error => some error
    | _ => none

def bodyError? (rejection : Rejection) : Option Json.Error :=
  rejection.causes.findSome? fun
    | .unreadableBody error => some error
    | _ => none

end Rejection

def bodyMessage (error : Json.Error) : String :=
  "Request body deserialize error: " ++ error.message

namespace Cause

def inspect : Cause → Text.Inspect
  | methodNotAllowed => .word "MethodNotAllowed"
  | lengthRequired => .word "LengthRequired"
  | payloadTooLarge => .word "PayloadTooLarge"
  | unsupportedMediaType => .word "UnsupportedMediaType"
  | unreadableBody error => .word (bodyMessage error)
  | api error => error.inspect
  | foreign content => content

end Cause

namespace Rejection

def inspect : Rejection → Text.Inspect
  | notFound => .wrap "Rejection" (.word "NotFound")
  | refused causes =>
    match causes.toList with
    | [cause] => .wrap "Rejection" cause.inspect
    | list => .wrap "Rejection" (.word
        ("[" ++ ", ".intercalate (list.map fun cause => cause.inspect.compact) ++ "]"))

end Rejection

end Gatehouse.Http
