import Gatehouse.Http.Reply
import Gatehouse.Log

/-! Turning the service's own rejections into JSON answers, each reported by one event. A rejection
without a cause of that kind is handed back as it came. -/

namespace Gatehouse.Api

open Http

namespace Error

def reply : Error → Reply
  | malformed cause => .ofError .badRequest cause.message
  | store _ => .ofError .internalServerError "an unknown error has occurred"

def event : Error → Log.Event
  | malformed cause => .malformedParameter cause.value
  | store cause => .storeFailed cause

end Error

/-- An error of the service comes before an unreadable body. -/
def recover (rejection : Rejection) : Except Rejection (Reply × Log.Event) :=
  match rejection.apiError? with
  | some error => .ok (error.reply, error.event)
  | none =>
    match rejection.bodyError? with
    | some error =>
      .ok (.ofError .badRequest (bodyMessage error), .malformedBody (bodyMessage error))
    | none => .error rejection

end Gatehouse.Api
