import Gatehouse.Api.Action
import Gatehouse.Api.Recover
import Gatehouse.Health
import Gatehouse.Settings

/-! Serving requests one after the other. Each request gets an answer, is reported by events, and
leaves a store for the next. -/

namespace Gatehouse

/-- What the routes share. `recovers` tells whether rejections are turned into JSON answers. -/
structure Service where
  settings : Settings
  recovers : Bool

structure Exchange where
  reply : Http.Reply
  events : List Log.Event
  store : Store

namespace Service

open Http

def refuse (recovers : Bool) (rejection : Rejection) : Reply × List Log.Event :=
  if recovers then
    match Api.recover rejection with
    | .ok (reply, event) => (reply, [event])
    | .error rejection => (rejection.reply, [])
  else (rejection.reply, [])

def healthReply (now : Calendar.UtcTime) : Reply :=
  ⟨.ok, .json (Health.body now.timestamp.text)⟩

def respond (service : Service) (now : Calendar.UtcTime) (store : Store) (request : Request) :
    Exchange :=
  match Api.action request with
  | .error rejection =>
    let (reply, events) := refuse service.recovers rejection
    ⟨reply, events, store⟩
  | .ok .health => ⟨healthReply now, [], store⟩
  | .ok (.update id update) =>
    match store.update id update.fcmToken with
    | .ok store => ⟨⟨.noContent, .empty⟩, [.tokenUpdated id.text], store⟩
    | .error cause =>
      let (reply, events) := refuse service.recovers (.of (.api (.store cause)))
      ⟨reply, events, store⟩

def run (service : Service) : Store → List (Calendar.UtcTime × Request) → List Exchange
  | _, [] => []
  | store, (now, request) :: requests =>
    let exchange := service.respond now store request
    exchange :: service.run exchange.store requests

end Service

end Gatehouse
