import Gatehouse.Api.Thing
import Gatehouse.Proofs.Api.Refusal
import Gatehouse.Proofs.Json.Tree
import Gatehouse.Proofs.Json.Unambiguous
import Gatehouse.Proofs.Json.Write

/-! Errors as a client reads them. The body is one object of three members whatever text was
refused, and from the message that text is got back as it was, character by character. -/

namespace Gatehouse

open Http Json

namespace Http.Reply

/-- An answer that tells its status, the reason of it and a message. Its body is an object of these
three members by the grammar and nothing else, and this is what a reader of JSON gets. -/
structure Tells (reply : Reply) (message : String) : Prop where
  type : reply.contentType? = some "application/json"
  members : ∃ code reason text, code = Text.Utf8.encode (toString reply.status.code) ∧
    (∀ s, Grammar.Quotes s reason ↔ s = reply.status.reason) ∧
    (∀ s, Grammar.Quotes s text ↔ s = message) ∧
    ∀ members, Grammar.Object members (Text.Utf8.encode reply.body) ↔
      members = [("statusCode", code), ("error", reason), ("message", text)]
  tree : ∀ depth, (Tree.reader (depth + 1)).decode (Text.Utf8.encode reply.body) =
    .ok (.object [("statusCode", .number (.integer reply.status.code)),
      ("error", .text reply.status.reason), ("message", .text message)])

def message? (reply : Reply) : Option String :=
  match (Tree.reader 1).decode (Text.Utf8.encode reply.body) with
  | .ok (.object members) => (members.lookup "message").bind Tree.text?
  | _ => none

def refused? (expected : String) (reply : Reply) : Option String := do
  let message ← reply.message?
  let value ← ("Invalid " ++ expected ++ " format: ").toList.isPrefixOf? message.toList
  return String.ofList value

structure Refuses (reply : Reply) (expected value : String) : Prop where
  status : reply.status = .badRequest
  tells : reply.Tells ("Invalid " ++ expected ++ " format: " ++ value)
  value : reply.refused? expected = some value

theorem quotes_quote_iff {s t : String} :
    Grammar.Quotes s (Text.Utf8.encode (Value.quote t)) ↔ s = t := by
  constructor
  · exact fun h => h.unique (Value.quotes_quote t)
  · rintro rfl
    exact Value.quotes_quote s

theorem tells_ofError (status : Status) (message : String) :
    (ofError status message).Tells message := by
  have hcode : toString (status.code : Int) = toString status.code := rfl
  have hobject : Grammar.Object
      [("statusCode", Text.Utf8.encode (toString status.code)),
        ("error", Text.Utf8.encode (Value.quote status.reason)),
        ("message", Text.Utf8.encode (Value.quote message))]
      (Text.Utf8.encode (ofError status message).body) :=
    Value.object_render [("statusCode", .integer status.code), ("error", .text status.reason),
      ("message", .text message)]
  refine ⟨rfl, ⟨Text.Utf8.encode (toString status.code),
    Text.Utf8.encode (Value.quote status.reason), Text.Utf8.encode (Value.quote message), rfl,
    fun _ => quotes_quote_iff, fun _ => quotes_quote_iff, fun members => ?_⟩, fun depth => ?_⟩
  · constructor
    · intro h
      exact Grammar.Object.unique h hobject
    · rintro rfl
      exact hobject
  · have hlow : Int64.minValue.toInt ≤ status.code := by
      cases status <;> decide
    have hhigh : (status.code : Int) < UInt64.size := by
      cases status <;> decide
    have hinteger := Tree.accepts_integer hlow hhigh depth
    rw [hcode] at hinteger
    have htext (s : String) := Tree.accepts_text (Value.quotes_quote s) depth
    exact Tree.decode_object hobject
      (.cons ⟨hinteger⟩ (.cons ⟨htext status.reason⟩ (.cons ⟨htext message⟩ .nil)))

theorem Tells.message?_eq {reply : Reply} {message : String} (h : reply.Tells message) :
    reply.message? = some message := by
  rw [message?, h.tree 0]
  rfl

theorem refuses_ofError (expected value : String) :
    (ofError .badRequest (Malformed.message ⟨expected, value⟩)).Refuses expected value := by
  have htells := tells_ofError .badRequest (Malformed.message ⟨expected, value⟩)
  refine ⟨rfl, htells, ?_⟩
  have hsplit : ("Invalid " ++ expected ++ " format: ").toList.isPrefixOf?
      (Malformed.message ⟨expected, value⟩).toList = some value.toList := by
    rw [List.isPrefixOf?_eq_some_iff_append_eq, Malformed.message, ← String.toList_append]
  rw [refused?, htells.message?_eq]
  simp only [Option.bind_eq_bind, Option.bind_some, hsplit, Option.pure_def, String.ofList_toList]

theorem contentType?_plain_ne (status : Status) (text : String) :
    contentType? ⟨status, .plain text⟩ ≠ some "application/json" := by
  have hplain : some "text/plain; charset=utf-8" ≠ some "application/json" := by decide
  exact hplain

end Http.Reply

theorem Http.Rejection.reply_contentType?_ne (rejection : Rejection) :
    rejection.reply.contentType? ≠ some "application/json" := by
  cases rejection with
  | notFound => exact nofun
  | refused causes =>
    rw [reply]
    cases causes.preferred <;> exact Reply.contentType?_plain_ne _ _

namespace Api

theorem recover_eq_ofError {rejection : Rejection} {reply : Reply} {event : Log.Event}
    (h : recover rejection = .ok (reply, event)) :
    reply.status ∈ [.badRequest, .internalServerError] ∧
      ∃ message, reply = .ofError reply.status message := by
  have hbad : Status.badRequest ∈ [.badRequest, .internalServerError] := by decide
  have hfailed : Status.internalServerError ∈ [.badRequest, .internalServerError] := by decide
  unfold recover at h
  split at h
  · next error herror =>
    cases h
    cases error with
    | malformed cause => exact ⟨hbad, _, rfl⟩
    | store cause => exact ⟨hfailed, _, rfl⟩
  · split at h
    · cases h
      exact ⟨hbad, _, rfl⟩
    · cases h

theorem recover_of_malformed {rejection : Rejection} {cause : Malformed}
    (h : rejection.apiError? = some (.malformed cause)) :
    recover rejection =
      .ok (.ofError .badRequest cause.message, .malformedParameter cause.value) := by
  rw [recover, h]
  rfl

theorem refuse_tells {rejection : Rejection}
    (h : (Service.refuse true rejection).1.contentType? = some "application/json") :
    ∃ message, (Service.refuse true rejection).1.Tells message := by
  unfold Service.refuse at h ⊢
  rw [if_pos rfl] at h ⊢
  cases hrecover : recover rejection with
  | ok answer =>
    obtain ⟨reply, event⟩ := answer
    obtain ⟨-, message, hreply⟩ := recover_eq_ofError hrecover
    change ∃ message, reply.Tells message
    rw [hreply]
    exact ⟨message, Reply.tells_ofError reply.status message⟩
  | error rest =>
    rw [hrecover] at h
    exact absurd h rest.reply_contentType?_ne

namespace Thing

theorem respond_tells {pipeline : Pipeline} {request : Request}
    (h : (respond true pipeline request).1.contentType? = some "application/json") :
    ∃ message, (respond true pipeline request).1.Tells message := by
  unfold respond at h ⊢
  dsimp only at h ⊢
  split at h
  · exact absurd h (Reply.contentType?_plain_ne _ _)
  · exact refuse_tells h

theorem respond_of_refused {pipeline : Pipeline} {request : Request} {cause : Malformed}
    (hthings : request.path.segment 0 = "things".toList) (huser : request.path.segment 1 ≠ [])
    (h : Param.accept pipeline (String.ofList (request.path.segment 1)) = .error cause) :
    (respond true pipeline request).1 = .ofError .badRequest cause.message := by
  have htake : take pipeline request = .error (.of (.api (.malformed cause))) := by
    rw [Path.segment_succ, Path.segment_zero] at huser h
    rw [take, segment_eq, require_of hthings]
    change Param.take pipeline request.path.next.2 = _
    have hsegment : ¬request.path.next.2.next.1.isEmpty = true := by simpa using huser
    rw [Param.take]
    simp only [if_neg hsegment, h]
  rw [respond, htake]
  rfl

end Thing

theorem accept_uuid_refused {request : Request} (h : request.namesUser = false) :
    Param.accept .uuid (String.ofList (request.path.segment 1)) =
      .error ⟨"UUID", request.userText⟩ := by
  cases haccept : Param.accept .uuid (String.ofList (request.path.segment 1)) with
  | ok id =>
    have huser : userOf (request.path.segment 1) = .ok id := by rw [userOf, haccept]
    rw [namesUser_of_userOf huser] at h
    cases h
  | error cause =>
    have huser : userOf (request.path.segment 1) = .error (.of (.api (.malformed cause))) := by
      rw [userOf, haccept]
    obtain ⟨-, hcause⟩ := userOf_refused huser
    cases hcause
    rfl

end Api

namespace Service

variable (settings : Settings) (now : Calendar.UtcTime) (store : Store) (request : Request)

theorem respond_tells
    (h : (respond ⟨settings, true⟩ now store request).reply.contentType? =
      some "application/json") :
    (respond ⟨settings, true⟩ now store request).reply.status = .ok ∨
      ∃ message, (respond ⟨settings, true⟩ now store request).reply.Tells message := by
  cases hrejection : rejection? store request with
  | none =>
    obtain haction | ⟨id, token, hadmits, hfree⟩ := accepted_of_no_rejection hrejection
    · rw [respond_of_health _ now haction]
      exact .inl rfl
    · rw [respond_of_admits _ now hadmits hfree] at h
      cases h
  | some rejection =>
    rw [respond_of_rejection _ now hrejection] at h ⊢
    exact .inr (Api.refuse_tells h)

variable {request}

theorem respond_of_malformed_user (hmethod : request.method = "PATCH")
    (husers : request.path.segment 0 = "users".toList) (huser : request.path.segment 1 ≠ [])
    (h : request.namesUser = false) :
    (respond ⟨settings, true⟩ now store request).reply =
      .ofError .badRequest (Malformed.message ⟨"UUID", request.userText⟩) := by
  have hhealth : ¬Api.isHealth request.path := by
    rintro ⟨hpath, -⟩
    exact absurd (hpath.symm.trans husers) (by decide)
  have haction : Api.action request =
      .error (.of (.api (.malformed ⟨"UUID", request.userText⟩))) := by
    rw [Api.action_of_not_health hhealth, Api.updateAction_eq, Api.methodIs_eq,
      Api.require_of hmethod, Api.require_of husers, Api.require_of huser, Api.userOf,
      Api.accept_uuid_refused h]
    rfl
  rw [respond_of_rejected _ now haction, refuse_malformed]

end Service

/-- Every answer that a rejection is turned into is one JSON object of the status, its reason and a
message, and so is every JSON answer of the routes but that of the health route, whatever pipeline
there is. The message of a malformed parameter names what was expected and carries the value as it
was, so that a client gets back just this value; where the UUID gate refuses, it is the decoded
segment, or the segment as it came if it is no text. -/
theorem Api.recover_tells :
    (∀ rejection reply event, Api.recover rejection = .ok (reply, event) →
      (reply.status.code, reply.status.reason) ∈
        [(400, "Bad Request"), (500, "Internal Server Error")] ∧
      (∃ message, reply.Tells message) ∧
      ∀ cause, rejection.apiError? = some (.malformed cause) →
        reply.Refuses cause.expected cause.value) ∧
    (∀ (pipeline : Pipeline) (request : Request),
      let reply := (Api.Thing.respond true pipeline request).1
      (reply.contentType? = some "application/json" → ∃ message, reply.Tells message) ∧
      ∀ cause, request.path.segment 0 = "things".toList → request.path.segment 1 ≠ [] →
        Api.Param.accept pipeline (String.ofList (request.path.segment 1)) = .error cause →
        reply.Refuses cause.expected cause.value) ∧
    (∀ settings now store request,
      let reply := (Service.respond ⟨settings, true⟩ now store request).reply
      reply.contentType? = some "application/json" →
        reply.status = .ok ∨ ∃ message, reply.Tells message) ∧
    ∀ request : Request, request.path.segment 1 ≠ [] → request.namesUser = false →
      (request.path.segment 0 = "things".toList →
        (Api.Thing.respond true .uuid request).1.Refuses "UUID" request.userText) ∧
      (request.method = "PATCH" → request.path.segment 0 = "users".toList →
        ∀ settings now store, (Service.respond ⟨settings, true⟩ now store request).reply.Refuses
          "UUID" request.userText) := by
  refine ⟨fun rejection reply event h => ⟨?_, ?_, fun cause hcause => ?_⟩,
    fun pipeline request => ⟨Api.Thing.respond_tells, fun cause hthings huser hcause => ?_⟩,
    Service.respond_tells, fun request huser hrefused => ⟨fun hthings => ?_, ?_⟩⟩
  · have hall : ∀ status ∈ [Status.badRequest, .internalServerError],
        (status.code, status.reason) ∈
          [(400, "Bad Request"), (500, "Internal Server Error")] := by decide
    exact hall _ (Api.recover_eq_ofError h).1
  · obtain ⟨-, message, hreply⟩ := Api.recover_eq_ofError h
    rw [hreply]
    exact ⟨message, Reply.tells_ofError reply.status message⟩
  · rw [Api.recover_of_malformed hcause] at h
    cases h
    exact Reply.refuses_ofError cause.expected cause.value
  · rw [Api.Thing.respond_of_refused hthings huser hcause]
    exact Reply.refuses_ofError cause.expected cause.value
  · rw [Api.Thing.respond_of_refused hthings huser (Api.accept_uuid_refused hrefused)]
    exact Reply.refuses_ofError "UUID" request.userText
  · intro hmethod husers settings now store
    rw [Service.respond_of_malformed_user settings now store hmethod husers huser hrefused]
    exact Reply.refuses_ofError "UUID" request.userText

/-- Quotes, a backslash, a control and a character beyond the first plane, decoded; and bytes that
are no text, as they came. -/
theorem Api.recover_tells_hostile :
    let thing : Request := ⟨"GET", "/things/%22,%22%5C%0A%f0%9f%98%80", [], []⟩
    let user : Request := ⟨"PATCH", "/users/%22%f0%9f/fcm-token", [], []⟩
    (Api.Thing.respond true .uuid thing).1.refused? "UUID" = some "\",\"\\\n😀" ∧
      (Service.respond ⟨⟨.standard, .standard⟩, true⟩ .epoch .permissive user).reply.refused?
        "UUID" = some "%22%f0%9f" := by
  intro thing user
  have hthing : thing.userText = "\",\"\\\n😀" := by decide +kernel
  have huser : user.userText = "%22%f0%9f" := by decide +kernel
  refine ⟨?_, ?_⟩
  · rw [← hthing]
    have hrefused := recover_tells.2.2.2 thing (by decide +kernel) (by decide +kernel)
    exact (hrefused.1 (by decide +kernel)).value
  · rw [← huser]
    have hrefused := recover_tells.2.2.2 user (by decide +kernel) (by decide +kernel)
    exact (hrefused.2 rfl (by decide +kernel) _ .epoch .permissive).value

end Gatehouse
