import Gatehouse.Proofs.Api.Refusal
import Gatehouse.Proofs.Api.Run

/-! What the log tells of the answers. The event of an update is reported where the store took the
token, those of failures where a rejection is turned into an answer; still every answer has the
events that its status calls for and no others. -/

namespace Gatehouse

open Http

namespace Log

structure Entry where
  level : Level
  target : String
  message : String
  fields : List (String × String)

def Entry.ofRoutes (level : Level) (message : String) (fields : List (String × String)) : Entry :=
  ⟨level, "homeservices_gate::routes", message, fields⟩

def Event.entry (event : Event) : Entry :=
  ⟨event.level, event.target, event.message,
    event.fields.map fun field => (field.name, field.text)⟩

end Log

def Exchange.log (exchange : Exchange) : List Log.Entry := exchange.events.map Log.Event.entry

structure Exchange.Logs (before : Store) (request : Request) (exchange : Exchange) : Prop where
  updated : exchange.reply.status = .noContent → ∃ id token, Api.Admits request id token ∧
    before.update id token = .ok exchange.store ∧
    exchange.log = [.ofRoutes .info "updated push registration token" [("user_id", id.text)]]
  failed : exchange.reply.status = .internalServerError → ∃ id token cause,
    Api.Admits request id token ∧ before.update id token = .error cause ∧
    exchange.log = [.ofRoutes .error "device token store failed" [("error", cause)]]
  user : exchange.reply.status = .badRequest → request.namesUser = false →
    exchange.reply = .ofError .badRequest ("Invalid UUID format: " ++ request.userText) ∧
    exchange.log =
      [.ofRoutes .debug "rejected malformed parameter" [("value", request.userText)]]
  body : exchange.reply.status = .badRequest → request.namesUser = true → ∃ error,
    TokenUpdate.reader.decode request.body = .error error ∧
    exchange.reply = .ofError .badRequest (bodyMessage error) ∧
    exchange.log =
      [.ofRoutes .debug "rejected malformed request body" [("error", bodyMessage error)]]
  other : exchange.reply.status ∉ [.noContent, .internalServerError, .badRequest] →
    exchange.log = []

namespace Log.Event

theorem entry_tokenUpdated (id : String) : (tokenUpdated id).entry =
    .ofRoutes .info "updated push registration token" [("user_id", id)] := rfl

theorem entry_storeFailed (cause : String) : (storeFailed cause).entry =
    .ofRoutes .error "device token store failed" [("error", cause)] := rfl

theorem entry_malformedParameter (value : String) : (malformedParameter value).entry =
    .ofRoutes .debug "rejected malformed parameter" [("value", value)] := rfl

theorem entry_malformedBody (cause : String) : (malformedBody cause).entry =
    .ofRoutes .debug "rejected malformed request body" [("error", cause)] := rfl

end Log.Event

theorem Exchange.log_singleton (reply : Reply) (event : Log.Event) (store : Store) :
    log ⟨reply, [event], store⟩ = [event.entry] := rfl

namespace Exchange.Logs

variable {before : Store} {request : Request} {exchange : Exchange}

theorem silent (hlog : exchange.log = [])
    (hstatus : exchange.reply.status ∉ [.noContent, .internalServerError, .badRequest]) :
    exchange.Logs before request where
  updated h := absurd (h ▸ List.mem_cons_self) hstatus
  failed h := absurd (h ▸ .tail _ List.mem_cons_self) hstatus
  user h := absurd (h ▸ .tail _ (.tail _ List.mem_cons_self)) hstatus
  body h := absurd (h ▸ .tail _ (.tail _ List.mem_cons_self)) hstatus
  other _ := hlog

theorem levels (h : exchange.Logs before request) :
    ((∃ entry ∈ exchange.log, entry.level = .error) ↔
      exchange.reply.status = .internalServerError) ∧
    ((∃ entry ∈ exchange.log, entry.level = .info) ↔ exchange.reply.status = .noContent) := by
  by_cases hupdated : exchange.reply.status = .noContent
  · obtain ⟨id, token, -, -, hlog⟩ := h.updated hupdated
    simp [hlog, hupdated, Log.Entry.ofRoutes]
  by_cases hfailed : exchange.reply.status = .internalServerError
  · obtain ⟨id, token, cause, -, -, hlog⟩ := h.failed hfailed
    simp [hlog, hfailed, Log.Entry.ofRoutes]
  by_cases hbad : exchange.reply.status = .badRequest
  · cases huser : request.namesUser with
    | false =>
      obtain ⟨-, hlog⟩ := h.user hbad huser
      simp [hlog, hbad, Log.Entry.ofRoutes]
    | true =>
      obtain ⟨error, -, -, hlog⟩ := h.body hbad huser
      simp [hlog, hbad, Log.Entry.ofRoutes]
  · have hlog := h.other (by simp [hupdated, hfailed, hbad])
    simp [hlog, hupdated, hfailed]

end Exchange.Logs

namespace Service

variable (settings : Settings) (now : Calendar.UtcTime) (store : Store) (request : Request)

variable {store request}

theorem logs_user {cause : Malformed} (hcause : cause = ⟨"UUID", request.userText⟩)
    (h : request.namesUser = false) :
    Exchange.Logs store request
      ⟨.ofError .badRequest cause.message, [.malformedParameter cause.value], store⟩ where
  updated := nofun
  failed := nofun
  user _ _ := by
    have hmessage : cause.message = "Invalid UUID format: " ++ request.userText := by
      rw [hcause, Malformed.message_uuid]
    have hvalue : cause.value = request.userText := by rw [hcause]
    rw [Exchange.log_singleton, Log.Event.entry_malformedParameter, hmessage, hvalue]
    exact ⟨rfl, rfl⟩
  body _ huser := absurd (h.symm.trans huser) Bool.false_ne_true
  other h := absurd (.tail _ (.tail _ List.mem_cons_self)) h

theorem logs_body {error : Json.Error} (huser : request.namesUser = true)
    (h : TokenUpdate.reader.decode request.body = .error error) :
    Exchange.Logs store request
      ⟨.ofError .badRequest (bodyMessage error), [.malformedBody (bodyMessage error)], store⟩ where
  updated := nofun
  failed := nofun
  user _ hother := absurd (hother.symm.trans huser) Bool.false_ne_true
  body _ _ := ⟨error, h, rfl, by rw [Exchange.log_singleton, Log.Event.entry_malformedBody]⟩
  other h := absurd (.tail _ (.tail _ List.mem_cons_self)) h

theorem logs_failed {id : ResourceId} {token : String} (hadmits : Api.Admits request id token)
    (h : token ∈ store.refused) :
    Exchange.Logs store request
      ⟨.ofError .internalServerError "an unknown error has occurred", [.storeFailed store.failure],
        store⟩ where
  updated := nofun
  failed _ := ⟨id, token, store.failure, hadmits, Store.update_of_refused h id,
    by rw [Exchange.log_singleton, Log.Event.entry_storeFailed]⟩
  user := nofun
  body := nofun
  other h := absurd (.tail _ List.mem_cons_self) h

theorem logs_updated {id : ResourceId} {token : String} (hadmits : Api.Admits request id token)
    (h : token ∉ store.refused) :
    Exchange.Logs store request
      ⟨⟨.noContent, .empty⟩, [.tokenUpdated id.text], store.holding id token⟩ where
  updated _ := ⟨id, token, hadmits, Store.update_of_not_refused h id,
    by rw [Exchange.log_singleton, Log.Event.entry_tokenUpdated]⟩
  failed := nofun
  user := nofun
  body := nofun
  other h := absurd List.mem_cons_self h

theorem logs_refused {rejection : Rejection} (h : Api.Refusal store request rejection) :
    Exchange.Logs store request ⟨(refuse true rejection).1, (refuse true rejection).2, store⟩ := by
  cases h with
  | plain h =>
    have hother : ∀ status ∈ [Status.notFound, .methodNotAllowed, .lengthRequired,
        .payloadTooLarge, .unsupportedMediaType],
        status ∉ [.noContent, .internalServerError, .badRequest] := by decide
    rw [refuse_of_plain true h]
    exact .silent rfl (hother _ h.reply_status)
  | user h =>
    rw [refuse_malformed]
    exact logs_user rfl h
  | body huser h =>
    rw [refuse_unreadable_body]
    exact logs_body huser h
  | store hadmits h =>
    rw [refuse_store_failure]
    exact logs_failed hadmits h

variable (store request)

theorem logs_respond : (respond ⟨settings, true⟩ now store request).Logs store request := by
  cases hrejection : rejection? store request with
  | none =>
    obtain haction | ⟨id, token, hadmits, hfree⟩ := accepted_of_no_rejection hrejection
    · have hok : Status.ok ∉ [.noContent, .internalServerError, .badRequest] := by decide
      rw [respond_of_health _ now haction]
      exact .silent rfl hok
    · rw [respond_of_admits _ now hadmits hfree]
      exact logs_updated hadmits hfree
  | some rejection =>
    rw [respond_of_rejection _ now hrejection]
    exact logs_refused (refusal_of_rejection hrejection)

theorem status_error_iff :
    (respond ⟨settings, true⟩ now store request).reply.status = .internalServerError ↔
      ∃ id token cause, Api.Admits request id token ∧ store.update id token = .error cause := by
  constructor
  · intro hstatus
    obtain ⟨id, token, cause, hadmits, hupdate, -⟩ :=
      (logs_respond settings now store request).failed hstatus
    exact ⟨id, token, cause, hadmits, hupdate⟩
  · rintro ⟨id, token, cause, hadmits, hupdate⟩
    obtain ⟨hrefused, -⟩ := Store.update_eq_error_iff.mp hupdate
    rw [respond_of_refused _ now hadmits hrefused, refuse_store_failure]
    rfl

theorem status_updated_iff :
    (respond ⟨settings, true⟩ now store request).reply.status = .noContent ↔
      ∃ id token after, Api.Admits request id token ∧ store.update id token = .ok after := by
  constructor
  · intro hstatus
    obtain ⟨id, token, hadmits, hupdate, -⟩ :=
      (logs_respond settings now store request).updated hstatus
    exact ⟨id, token, _, hadmits, hupdate⟩
  · rintro ⟨id, token, after, hadmits, hupdate⟩
    obtain ⟨hfree, -⟩ := Store.update_eq_ok_iff.mp hupdate
    rw [respond_of_admits _ now hadmits hfree]

/-- The log of a run tells each answer: an error exactly where the store refused an update, an
information exactly where it took one. -/
theorem run_events {requests : List (Calendar.UtcTime × Request)} {i : Nat}
    {now : Calendar.UtcTime} {request : Request} (h : requests[i]? = some (now, request)) :
    let before := finalStore ⟨settings, true⟩ store (requests.take i)
    ∃ exchange, (run ⟨settings, true⟩ store requests)[i]? = some exchange ∧
      exchange.Logs before request ∧
      ((∃ entry ∈ exchange.log, entry.level = .error) ↔
        ∃ id token cause, Api.Admits request id token ∧ before.update id token = .error cause) ∧
      ((∃ entry ∈ exchange.log, entry.level = .info) ↔
        ∃ id token after, Api.Admits request id token ∧ before.update id token = .ok after) := by
  intro before
  have hlogs := logs_respond settings now before request
  refine ⟨respond ⟨settings, true⟩ now before request, ?_, hlogs, ?_, ?_⟩
  · rw [run_getElem?, h, Option.map_some]
  · rw [hlogs.levels.1, status_error_iff]
  · rw [hlogs.levels.2, status_updated_iff]

theorem run_events_malformed :
    let update : Request := ⟨"PATCH", "/users/550e8400-e29b-41d4-a716-446655440000/fcm-token",
      [("content-length", "16")], Text.Utf8.encode "\x7b\"fcmToken\":\"t\"\x7d"⟩
    let malformed : Request := ⟨"PATCH", "/users/4%32", [], []⟩
    let service : Service := ⟨⟨.standard, .standard⟩, true⟩
    ∃ exchange,
      (run service .permissive [(.epoch, update), (.epoch, malformed)])[1]? = some exchange ∧
      exchange.log = [.ofRoutes .debug "rejected malformed parameter" [("value", "42")]] := by
  intro update malformed service
  have hat : [(Calendar.UtcTime.epoch, update), (.epoch, malformed)][1]? =
      some (.epoch, malformed) := rfl
  obtain ⟨exchange, hexchange, hlogs, -⟩ := run_events ⟨.standard, .standard⟩ .permissive hat
  have hstatus : ((run service .permissive
      [(.epoch, update), (.epoch, malformed)])[1]?.map fun exchange => exchange.reply.status) =
      some .badRequest := by decide +kernel
  rw [hexchange] at hstatus
  have htext : malformed.userText = "42" := by decide +kernel
  have hlog := (hlogs.user (Option.some.inj hstatus) (by decide +kernel)).2
  rw [htext] at hlog
  exact ⟨exchange, hexchange, hlog⟩

end Service

end Gatehouse
