import Gatehouse.Net.Address
import Gatehouse.Text.Inspect

/-! What the service reports while it runs: a closed set of events, each with its level, the
component it comes from, a message and named fields. An event may happen within an activity, which
has fields of its own. -/

namespace Gatehouse.Log

inductive Level where
  | error
  | warn
  | info
  | debug
  | trace
  deriving DecidableEq

namespace Level

def rank : Level → Nat
  | error => 1
  | warn => 2
  | info => 3
  | debug => 4
  | trace => 5

def name : Level → String
  | error => "ERROR"
  | warn => "WARN"
  | info => "INFO"
  | debug => "DEBUG"
  | trace => "TRACE"

end Level

structure Field where
  name : String
  text : String
  quoted : Bool
  deriving DecidableEq

structure Activity where
  name : String
  target : String
  level : Level
  fields : List Field
  deriving DecidableEq

inductive Event where
  | placeholderSecret
  | malformedParameter (value : String)
  | malformedBody (cause : String)
  | storeFailed (cause : String)
  | tokenUpdated (id : String)
  | starting (bind : Net.Socket) (issuer accessExpiration : String)
  | listening (bind : Net.Socket)
  deriving DecidableEq

namespace Event

def level : Event → Level
  | placeholderSecret => .warn
  | malformedParameter _ => .debug
  | malformedBody _ => .debug
  | storeFailed _ => .error
  | tokenUpdated _ => .info
  | starting .. => .info
  | listening _ => .info

def target : Event → String
  | placeholderSecret => "homeservices_gate::config"
  | malformedParameter _ => "homeservices_gate::routes"
  | malformedBody _ => "homeservices_gate::routes"
  | storeFailed _ => "homeservices_gate::routes"
  | tokenUpdated _ => "homeservices_gate::routes"
  | starting .. => "server"
  | listening _ => "warp::server"

def activity? : Event → Option Activity
  | listening bind =>
    some ⟨"Server::run", "warp::server", .info, [⟨"addr", bind.render, false⟩]⟩
  | _ => none

def message : Event → String
  | placeholderSecret =>
    "JWT_SECRET is not set, tokens will be signed with the placeholder secret"
  | malformedParameter _ => "rejected malformed parameter"
  | malformedBody _ => "rejected malformed request body"
  | storeFailed _ => "device token store failed"
  | tokenUpdated _ => "updated push registration token"
  | starting .. => "starting server"
  | listening bind => "listening on http://" ++ bind.render

def fields : Event → List Field
  | placeholderSecret => []
  | malformedParameter value => [⟨"value", value, true⟩]
  | malformedBody cause => [⟨"error", cause, false⟩]
  | storeFailed cause => [⟨"error", cause, false⟩]
  | tokenUpdated id => [⟨"user_id", id, false⟩]
  | starting bind issuer accessExpiration =>
    [⟨"bind", bind.render, false⟩, ⟨"issuer", issuer, true⟩,
      ⟨"access_expiration", accessExpiration, true⟩]
  | listening _ => []

end Event

namespace Field

def render (field : Field) : String :=
  field.name ++ "=" ++ if field.quoted then Text.Quoted.quote field.text else field.text

end Field

def Event.line (event : Event) (activity : Option Activity) : String :=
  event.level.name ++ " " ++ ((activity.map fun a => a.name ++ ": ").getD "") ++
    event.target ++ ": " ++ event.message ++
    String.join ((event.fields ++ (activity.map (·.fields)).getD []).map fun field =>
      " " ++ field.render)

end Gatehouse.Log
