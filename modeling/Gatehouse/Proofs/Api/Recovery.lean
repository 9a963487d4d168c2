import Gatehouse.Proofs.Api.Answer
import Gatehouse.Proofs.Api.Refusal

/-! The service with its own answers to rejections, beside the one that leaves every rejection to
the server. They do the same to the store, and differ in the answers to malformed users, to
malformed bodies and to failures of the store, in no others. -/

namespace Gatehouse

open Http

/-- How an answer of the service that recovers stands to that of the one that does not, given the
rejection with which the request ended. -/
structure Exchange.Translates (found : Option Rejection) (recovered bare : Exchange) : Prop where
  store : recovered.store = bare.store
  accepted : found = none ↔ bare.reply.status.code ∈ [200, 204]
  unhandled : ∀ rejection, found = some rejection → bare.reply = rejection.reply
  foreign : (∀ rejection, found = some rejection →
    rejection.apiError? = none ∧ rejection.bodyError? = none) → recovered.reply = bare.reply
  unchanged : ∀ code ∈ [200, 204, 404, 405, 411, 413, 415],
    recovered.reply.status.code = code ∨ bare.reply.status.code = code →
    recovered.reply = bare.reply
  user : ∀ rejection cause, found = some rejection →
    rejection.apiError? = some (.malformed cause) →
    recovered.reply = .ofError .badRequest cause.message ∧ bare.reply.status.code = 500
  body : ∀ rejection error, found = some rejection → rejection.apiError? = none →
    rejection.bodyError? = some error →
    recovered.reply = .ofError .badRequest (bodyMessage error) ∧ bare.reply.status.code = 400
  failure : ∀ rejection cause, found = some rejection →
    rejection.apiError? = some (.store cause) →
    recovered.reply = .ofError .internalServerError "an unknown error has occurred" ∧
      bare.reply.status.code = 500

namespace Service

variable (settings : Settings) (now : Calendar.UtcTime) (store : Store) (request : Request)

theorem refuse_bare (rejection : Rejection) : refuse false rejection = (rejection.reply, []) := rfl

theorem translates_accepted {exchange : Exchange}
    (h : exchange.reply.status.code ∈ [200, 204]) :
    Exchange.Translates none exchange exchange where
  store := rfl
  accepted := iff_of_true rfl h
  unhandled := nofun
  foreign _ := rfl
  unchanged _ _ _ := rfl
  user := nofun
  body := nofun
  failure := nofun

theorem translates_foreign {rejection : Rejection} (hapi : rejection.apiError? = none)
    (hbody : rejection.bodyError? = none) (hstatus : rejection.reply.status.code ∉ [200, 204]) :
    Exchange.Translates (some rejection) ⟨rejection.reply, [], store⟩
      ⟨rejection.reply, [], store⟩ where
  store := rfl
  accepted := iff_of_false nofun hstatus
  unhandled _ h := by cases h; rfl
  foreign _ := rfl
  unchanged _ _ _ := rfl
  user _ cause h hcause := by
    cases h
    rw [hapi] at hcause
    cases hcause
  body _ error h _ herror := by
    cases h
    rw [hbody] at herror
    cases herror
  failure _ cause h hcause := by
    cases h
    rw [hapi] at hcause
    cases hcause

theorem translates_handled {rejection : Rejection} {recovered bare : Exchange}
    (hstore : recovered.store = bare.store) (hbare : bare.reply = rejection.reply)
    (hcodes : recovered.reply.status.code ∈ [400, 500] ∧ bare.reply.status.code ∈ [400, 500])
    (hknown : rejection.apiError? = none → rejection.bodyError? ≠ none)
    (huser : ∀ cause, rejection.apiError? = some (.malformed cause) →
      recovered.reply = .ofError .badRequest cause.message ∧ bare.reply.status.code = 500)
    (hbody : ∀ error, rejection.apiError? = none → rejection.bodyError? = some error →
      recovered.reply = .ofError .badRequest (bodyMessage error) ∧ bare.reply.status.code = 400)
    (hfailure : ∀ cause, rejection.apiError? = some (.store cause) →
      recovered.reply = .ofError .internalServerError "an unknown error has occurred" ∧
        bare.reply.status.code = 500) :
    Exchange.Translates (some rejection) recovered bare := by
  have hothers : ∀ code ∈ [400, 500], code ∉ [200, 204, 404, 405, 411, 413, 415] := by decide
  have haccepted : ∀ code ∈ [400, 500], code ∉ [200, 204] := by decide
  refine ⟨hstore, iff_of_false nofun (haccepted _ hcodes.2), ?_, ?_, ?_, ?_, ?_, ?_⟩
  · rintro _ ⟨rfl⟩
    exact hbare
  · intro hforeign
    obtain ⟨hapi, hnone⟩ := hforeign rejection rfl
    exact absurd hnone (hknown hapi)
  · rintro code hcode (rfl | rfl)
    · exact absurd hcode (hothers _ hcodes.1)
    · exact absurd hcode (hothers _ hcodes.2)
  · rintro _ cause ⟨rfl⟩
    exact huser cause
  · rintro _ error ⟨rfl⟩
    exact hbody error
  · rintro _ cause ⟨rfl⟩
    exact hfailure cause

theorem translates_refused {rejection : Rejection} (h : Api.Refusal store request rejection) :
    Exchange.Translates (some rejection)
      ⟨(refuse true rejection).1, (refuse true rejection).2, store⟩
      ⟨(refuse false rejection).1, (refuse false rejection).2, store⟩ := by
  have hbad : Status.badRequest.code ∈ [400, 500] := by decide
  have hfailed : Status.internalServerError.code ∈ [400, 500] := by decide
  cases h with
  | plain h =>
    have hother : ∀ status ∈ [Status.notFound, .methodNotAllowed, .lengthRequired,
        .payloadTooLarge, .unsupportedMediaType], status.code ∉ [200, 204] := by decide
    rw [refuse_of_plain true h, refuse_bare]
    exact translates_foreign store h.apiError? h.bodyError? (hother _ h.reply_status)
  | user h =>
    rw [refuse_malformed, refuse_bare]
    refine translates_handled rfl rfl ⟨hbad, hfailed⟩ nofun ?_ nofun nofun
    rintro _ ⟨rfl⟩
    exact ⟨rfl, rfl⟩
  | body huser h =>
    rw [refuse_unreadable_body, refuse_bare]
    refine translates_handled rfl rfl ⟨hbad, hbad⟩ nofun nofun ?_ nofun
    rintro _ - ⟨rfl⟩
    exact ⟨rfl, rfl⟩
  | store hadmits h =>
    rw [refuse_store_failure, refuse_bare]
    refine translates_handled rfl rfl ⟨hfailed, hfailed⟩ nofun nofun nofun ?_
    rintro _ ⟨rfl⟩
    exact ⟨rfl, rfl⟩

theorem translates_respond :
    Exchange.Translates (rejection? store request) (respond ⟨settings, true⟩ now store request)
      (respond ⟨settings, false⟩ now store request) := by
  cases hrejection : rejection? store request with
  | none =>
    have hstatus : (respond ⟨settings, false⟩ now store request).reply.status.code ∈
        [200, 204] := by
      obtain haction | ⟨id, token, hadmits, hfree⟩ := accepted_of_no_rejection hrejection
      · rw [respond_of_health _ now haction]
        exact List.mem_cons_self
      · rw [respond_of_admits _ now hadmits hfree]
        exact .tail _ List.mem_cons_self
    rw [respond_of_no_rejection ⟨settings, true⟩ ⟨settings, false⟩ now hrejection]
    exact translates_accepted hstatus
  | some rejection =>
    rw [respond_of_rejection _ now hrejection, respond_of_rejection _ now hrejection]
    exact translates_refused store request (refusal_of_rejection hrejection)

/-- At every place of a run the store is the same with recovery as without, and so is the answer,
unless the request ended with a malformed user, an unreadable body or a failure of the store. -/
theorem run_recovery {requests : List (Calendar.UtcTime × Request)} {i : Nat}
    {now : Calendar.UtcTime} {request : Request} (h : requests[i]? = some (now, request)) :
    let before := finalStore ⟨settings, false⟩ store (requests.take i)
    ∃ recovered bare, (run ⟨settings, true⟩ store requests)[i]? = some recovered ∧
      (run ⟨settings, false⟩ store requests)[i]? = some bare ∧
      Exchange.Translates (rejection? before request) recovered bare ∧
      ∀ rejection, rejection? before request = some rejection →
        Api.Refusal before request rejection := by
  intro before
  have hbefore : finalStore ⟨settings, true⟩ store (requests.take i) = before :=
    (finalStore_eq _ store _).trans (finalStore_eq _ store _).symm
  refine ⟨_, _, ?_, ?_, translates_respond settings now before request,
    fun _ => refusal_of_rejection⟩
  · rw [run_getElem?, h, Option.map_some, hbefore]
  · rw [run_getElem?, h, Option.map_some]

theorem run_recovery_malformed :
    let update : Request := ⟨"PATCH", "/users/550e8400-e29b-41d4-a716-446655440000/fcm-token",
      [("content-length", "16")], Text.Utf8.encode "\x7b\"fcmToken\":\"t\"\x7d"⟩
    let malformed : Request := ⟨"PATCH", "/users/4%32", [], []⟩
    let requests := [(Calendar.UtcTime.epoch, update), (.epoch, malformed)]
    ∃ recovered bare,
      (run ⟨⟨.standard, .standard⟩, true⟩ .permissive requests)[1]? = some recovered ∧
      (run ⟨⟨.standard, .standard⟩, false⟩ .permissive requests)[1]? = some bare ∧
      recovered.store = bare.store ∧
      recovered.reply = .ofError .badRequest "Invalid UUID format: 42" ∧
      bare.reply.status.code = 500 := by
  intro update malformed requests
  have hat : requests[1]? = some (.epoch, malformed) := rfl
  obtain ⟨recovered, bare, hrecovered, hbare, h, -⟩ :=
    run_recovery ⟨.standard, .standard⟩ .permissive hat
  have hcause : (rejection? (finalStore ⟨⟨.standard, .standard⟩, false⟩ .permissive
      (requests.take 1)) malformed).bind Rejection.apiError? =
      some (.malformed ⟨"UUID", "42"⟩) := by decide +kernel
  obtain ⟨rejection, hfound, hcause⟩ := Option.bind_eq_some_iff.mp hcause
  obtain ⟨hreply, hcode⟩ := h.user rejection _ hfound hcause
  exact ⟨recovered, bare, hrecovered, hbare, h.store, hreply, hcode⟩

end Service

end Gatehouse
