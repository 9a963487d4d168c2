import Gatehouse.Http.Rejection
import Gatehouse.Http.Request
import Gatehouse.Http.Status
import Gatehouse.Json.Write

/-! Answers, and the one that every rejection has if nobody handles it. -/

namespace Gatehouse.Http

inductive Content where
  | empty
  | plain (text : String)
  | json (value : Json.Value)

structure Reply where
  status : Status
  content : Content

namespace Reply

def contentType? (reply : Reply) : Option String :=
  match reply.content with
  | .empty => none
  | .plain _ => some "text/plain; charset=utf-8"
  | .json _ => some "application/json"

def headers (reply : Reply) : Headers :=
  match reply.contentType? with
  | some type => [("content-type", type)]
  | none => []

def body (reply : Reply) : String :=
  match reply.content with
  | .empty => ""
  | .plain text => text
  | .json value => value.render

def ofError (status : Status) (message : String) : Reply :=
  ⟨status, .json (.object [("statusCode", .integer status.code),
    ("error", .text status.reason), ("message", .text message)])⟩

end Reply

namespace Cause

def text : Cause → String
  | methodNotAllowed => "HTTP method not allowed"
  | lengthRequired => "A content-length header is required"
  | payloadTooLarge => "The request payload is too large"
  | unsupportedMediaType => "The request's content-type is not supported"
  | unreadableBody error => bodyMessage error
  | api error => "Unhandled rejection: " ++ error.inspect.compact
  | foreign content => "Unhandled rejection: " ++ content.compact

def reply (cause : Cause) : Reply := ⟨cause.status, .plain cause.text⟩

end Cause

def Rejection.reply : Rejection → Reply
  | notFound => ⟨.notFound, .empty⟩
  | refused causes => causes.preferred.reply

end Gatehouse.Http
