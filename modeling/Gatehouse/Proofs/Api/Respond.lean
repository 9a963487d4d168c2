import Gatehouse.Api.Service
import Gatehouse.Proofs.Api.Admission
import Gatehouse.Proofs.Device

/-! What one request brings about: either the store takes its token and the answer is 204, or the
answer is another one and the store is as before. -/

namespace Gatehouse

open Http

theorem Malformed.message_uuid (value : String) :
    message ⟨"UUID", value⟩ = "Invalid UUID format: " ++ value := by
  have hfront : "Invalid " ++ "UUID" ++ " format: " = "Invalid UUID format: " := by rfl
  rw [message, hfront]

theorem Http.Cause.reply_status_ne (cause : Cause) : cause.reply.status ≠ .noContent := by
  cases cause <;> exact Status.noConfusion

theorem Http.Rejection.reply_status_ne (rejection : Rejection) :
    rejection.reply.status ≠ .noContent := by
  cases rejection with
  | notFound => exact Status.noConfusion
  | refused causes => exact causes.preferred.reply_status_ne

theorem Api.Error.reply_status_ne (error : Api.Error) : error.reply.status ≠ .noContent := by
  cases error <;> exact Status.noConfusion

theorem Api.recover_status_ne {rejection : Rejection} {reply : Reply} {event : Log.Event}
    (h : Api.recover rejection = .ok (reply, event)) : reply.status ≠ .noContent := by
  unfold Api.recover at h
  cases hapi : rejection.apiError? with
  | some error =>
    rw [hapi] at h
    cases h
    exact error.reply_status_ne
  | none =>
    rw [hapi] at h
    cases hbody : rejection.bodyError? with
    | some error =>
      rw [hbody] at h
      cases h
      exact Status.noConfusion
    | none =>
      rw [hbody] at h
      cases h

namespace Service

theorem refuse_status_ne (recovers : Bool) (rejection : Rejection) :
    (refuse recovers rejection).1.status ≠ .noContent := by
  unfold refuse
  cases recovers with
  | false => exact rejection.reply_status_ne
  | true =>
    rw [if_pos rfl]
    cases h : Api.recover rejection with
    | ok answer =>
      obtain ⟨reply, event⟩ := answer
      exact Api.recover_status_ne h
    | error rest => exact rest.reply_status_ne

theorem refuse_malformed (cause : Malformed) :
    refuse true (.of (.api (.malformed cause))) =
      (.ofError .badRequest cause.message, [.malformedParameter cause.value]) := rfl

theorem refuse_unreadable_body (error : Json.Error) :
    refuse true (.of (.unreadableBody error)) =
      (.ofError .badRequest (bodyMessage error), [.malformedBody (bodyMessage error)]) := rfl

theorem refuse_store_failure (failure : String) :
    refuse true (.of (.api (.store failure))) =
      (.ofError .internalServerError "an unknown error has occurred", [.storeFailed failure]) :=
  rfl

variable (service : Service) (now : Calendar.UtcTime) {store : Store} {request : Request}
  {id : ResourceId} {token : String}

theorem respond_of_admits (h : Api.Admits request id token) (hfree : token ∉ store.refused) :
    service.respond now store request =
      ⟨⟨.noContent, .empty⟩, [.tokenUpdated id.text], store.holding id token⟩ := by
  rw [respond, Api.action_eq_update_iff.mpr h]
  simp only [Store.update_of_not_refused hfree]

theorem respond_of_refused (h : Api.Admits request id token) (hrefused : token ∈ store.refused) :
    service.respond now store request =
      ⟨(refuse service.recovers (.of (.api (.store store.failure)))).1,
        (refuse service.recovers (.of (.api (.store store.failure)))).2, store⟩ := by
  rw [respond, Api.action_eq_update_iff.mpr h]
  simp only [Store.update_of_refused hrefused]

theorem respond_of_rejected {rejection : Rejection} (h : Api.action request = .error rejection) :
    service.respond now store request =
      ⟨(refuse service.recovers rejection).1, (refuse service.recovers rejection).2, store⟩ := by
  rw [respond, h]

theorem respond_of_health (h : Api.action request = .ok .health) :
    service.respond now store request = ⟨healthReply now, [], store⟩ := by
  rw [respond, h]

theorem respond_of_not_admits (h : ∀ id token, ¬Api.Admits request id token) :
    (service.respond now store request).reply.status ≠ .noContent ∧
      (service.respond now store request).store = store := by
  cases haction : Api.action request with
  | error rejection =>
    rw [service.respond_of_rejected now haction]
    exact ⟨refuse_status_ne service.recovers rejection, rfl⟩
  | ok action =>
    cases action with
    | health =>
      rw [service.respond_of_health now haction]
      exact ⟨Status.noConfusion, rfl⟩
    | update id update =>
      obtain ⟨token⟩ := update
      exact absurd (Api.action_eq_update_iff.mp haction) (h id token)

theorem respond_cases (store : Store) (request : Request) :
    (∃ id token, Api.Admits request id token ∧ token ∉ store.refused ∧
      (service.respond now store request).reply.status = .noContent ∧
      (service.respond now store request).store = store.holding id token) ∨
    ((service.respond now store request).reply.status ≠ .noContent ∧
      (service.respond now store request).store = store) := by
  by_cases h : ∃ id token, Api.Admits request id token
  · obtain ⟨id, token, hadmits⟩ := h
    by_cases hrefused : token ∈ store.refused
    · rw [service.respond_of_refused now hadmits hrefused]
      exact .inr ⟨refuse_status_ne service.recovers _, rfl⟩
    · rw [service.respond_of_admits now hadmits hrefused]
      exact .inl ⟨id, token, hadmits, hrefused, rfl, rfl⟩
  · exact .inr (service.respond_of_not_admits now fun id token hadmits => h ⟨id, token, hadmits⟩)

theorem respond_status_iff (store : Store) (request : Request) :
    (service.respond now store request).reply.status = .noContent ↔
      ∃ id token, Api.Admits request id token ∧ token ∉ store.refused := by
  constructor
  · intro hstatus
    obtain ⟨id, token, hadmits, hfree, -⟩ | ⟨hother, -⟩ := service.respond_cases now store request
    · exact ⟨id, token, hadmits, hfree⟩
    · exact absurd hstatus hother
  · rintro ⟨id, token, hadmits, hfree⟩
    rw [service.respond_of_admits now hadmits hfree]

end Service

end Gatehouse
