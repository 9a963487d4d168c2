import Gatehouse.Proofs.Api.Decision

/-! Why a request is refused. Of all rejections that could be put together the routes and the store
produce four kinds; in three of them there is one cause, and in the fourth none that the service
can tell more about. -/

namespace Gatehouse

open Http

namespace Http

def Cause.isPlain : Cause → Bool
  | methodNotAllowed => true
  | lengthRequired => true
  | payloadTooLarge => true
  | unsupportedMediaType => true
  | _ => false

/-- A rejection with no cause that the service could tell more about. -/
def Rejection.Plain (rejection : Rejection) : Prop :=
  ∀ cause ∈ rejection.causes, cause.isPlain = true

def Request.userText (request : Request) : String :=
  (Text.Percent.decodeText? (String.ofList (request.path.segment 1))).getD
    (String.ofList (request.path.segment 1))

end Http

inductive Api.Refusal (store : Store) (request : Request) : Rejection → Prop where
  | plain {rejection : Rejection} (h : rejection.Plain) : Refusal store request rejection
  | user (h : request.namesUser = false) :
    Refusal store request (.of (.api (.malformed ⟨"UUID", request.userText⟩)))
  | body {error : Json.Error} (huser : request.namesUser = true)
    (h : TokenUpdate.reader.decode request.body = .error error) :
    Refusal store request (.of (.unreadableBody error))
  | store {id : ResourceId} {token : String} (hadmits : Api.Admits request id token)
    (h : token ∈ store.refused) :
    Refusal store request (.of (.api (.store store.failure)))

namespace Http

theorem Causes.preferred_mem (causes : Causes) : causes.preferred ∈ causes.toList := by
  induction causes with
  | one cause => exact List.mem_singleton_self cause
  | both left right hleft hright =>
    rw [preferred, toList, List.mem_append]
    split
    · exact .inr hright
    · exact .inl hleft

theorem Causes.rank_le_preferred (causes : Causes) :
    ∀ cause ∈ causes.toList, cause.status.rank ≤ causes.preferred.status.rank := by
  induction causes with
  | one cause => exact List.forall_mem_singleton.mpr (Nat.le_refl _)
  | both left right hleft hright =>
    rw [preferred, toList, List.forall_mem_append]
    split
    · next hless => exact ⟨fun cause h => (hleft cause h).trans (Nat.le_of_lt hless), hright⟩
    · next hless => exact ⟨hleft, fun cause h => (hright cause h).trans (Nat.le_of_not_lt hless)⟩

namespace Rejection

theorem plain_notFound : notFound.Plain := List.forall_mem_nil _

theorem plain_of {cause : Cause} (h : cause.isPlain = true) : (of cause).Plain :=
  List.forall_mem_singleton.mpr h

theorem Plain.combine {left right : Rejection} (hleft : left.Plain) (hright : right.Plain) :
    (left.combine right).Plain := by
  cases left with
  | notFound => exact hright
  | refused causes =>
    cases right with
    | notFound => exact hleft
    | refused more => exact List.forall_mem_append.mpr ⟨hleft, hright⟩

theorem Plain.findSome? {rejection : Rejection} {α : Type} {find : Cause → Option α}
    (h : rejection.Plain) (hfind : ∀ cause, cause.isPlain = true → find cause = none) :
    rejection.causes.findSome? find = none := by
  rw [List.findSome?_eq_none_iff]
  intro cause hcause
  exact hfind cause (h cause hcause)

theorem Plain.apiError? {rejection : Rejection} (h : rejection.Plain) :
    rejection.apiError? = none := by
  apply h.findSome?
  intro cause hplain
  cases cause with
  | api error => cases hplain
  | _ => rfl

theorem Plain.bodyError? {rejection : Rejection} (h : rejection.Plain) :
    rejection.bodyError? = none := by
  apply h.findSome?
  intro cause hplain
  cases cause with
  | unreadableBody error => cases hplain
  | _ => rfl

theorem Plain.reply_status {rejection : Rejection} (h : rejection.Plain) :
    rejection.reply.status ∈ [.notFound, .methodNotAllowed, .lengthRequired, .payloadTooLarge,
      .unsupportedMediaType] := by
  cases rejection with
  | notFound => decide
  | refused causes =>
    have hplain := h causes.preferred causes.preferred_mem
    rw [reply]
    cases hcause : causes.preferred <;> rw [hcause] at hplain <;> first | decide | cases hplain

end Rejection

end Http

namespace Api

variable {store : Store} {request : Request} {rejection : Rejection}

theorem bind_eq_error_iff {ε α β : Type} {x : Except ε α} {f : α → Except ε β} {e : ε} :
    x >>= f = .error e ↔ x = .error e ∨ ∃ a, x = .ok a ∧ f a = .error e := by
  cases x with
  | error e' =>
    constructor
    · intro h
      cases h
      exact .inl rfl
    · rintro (h | ⟨a, ha, -⟩)
      · cases h
        rfl
      · cases ha
  | ok a =>
    constructor
    · exact fun h => .inr ⟨a, rfl, h⟩
    · rintro (h | ⟨a', ha, h⟩)
      · cases h
      · cases ha
        exact h

theorem plain_of_require {demand : Prop} [Decidable demand] {other : Rejection}
    (h : require demand other = .error rejection) (hother : other.Plain) : rejection.Plain := by
  by_cases hdemand : demand
  · rw [require_of hdemand] at h
    cases h
  · rw [require_of_not hdemand] at h
    cases h
    exact hother

theorem plain_of_checkLength (h : checkLength request = .error rejection) : rejection.Plain := by
  unfold checkLength at h
  split at h
  · cases h
    exact Rejection.plain_of rfl
  · split at h
    · cases h
    · cases h
      exact Rejection.plain_of rfl

theorem plain_of_checkType (h : checkType request = .error rejection) : rejection.Plain := by
  unfold checkType at h
  split at h
  · cases h
  · split at h
    · cases h
    · cases h
      exact Rejection.plain_of rfl

theorem namesUser_of_userOf {id : ResourceId} (h : userOf (request.path.segment 1) = .ok id) :
    request.namesUser = true := by
  obtain ⟨huser, haccept⟩ := userOf_eq_ok_iff.mp h
  rw [Request.namesUser, huser, Option.any_some, haccept]

theorem userOf_refused (h : userOf (request.path.segment 1) = .error rejection) :
    request.namesUser = false ∧
      rejection = .of (.api (.malformed ⟨"UUID", request.userText⟩)) := by
  rw [userOf, accept_uuid] at h
  rw [Request.namesUser, Request.userId?, Request.userText]
  cases hdecode : Text.Percent.decodeText? (String.ofList (request.path.segment 1)) with
  | none =>
    rw [hdecode] at h
    cases h
    exact ⟨rfl, rfl⟩
  | some value =>
    by_cases haccept : Uuid.Rule.standard.accepts value = true
    · simp only [hdecode, if_pos haccept, reduceCtorEq] at h
    · simp only [hdecode, if_neg haccept, Except.error.injEq] at h
      exact ⟨Bool.eq_false_iff.mpr haccept, h.symm⟩

theorem readBody_refused (h : readBody request = .error rejection) :
    ∃ error, TokenUpdate.reader.decode request.body = .error error ∧
      rejection = .of (.unreadableBody error) := by
  unfold readBody at h
  split at h
  · cases h
  · next error hdecode =>
    cases h
    exact ⟨error, hdecode, rfl⟩

theorem refusal_of_updateAction (h : updateAction request = .error rejection) :
    Refusal store request rejection := by
  rw [updateAction_eq, methodIs_eq] at h
  obtain h | ⟨_, -, h⟩ := bind_eq_error_iff.mp h
  · exact .plain (plain_of_require h (Rejection.plain_of rfl))
  obtain h | ⟨_, -, h⟩ := bind_eq_error_iff.mp h
  · exact .plain (plain_of_require h Rejection.plain_notFound)
  obtain h | ⟨_, -, h⟩ := bind_eq_error_iff.mp h
  · exact .plain (plain_of_require h Rejection.plain_notFound)
  obtain h | ⟨id, hid, h⟩ := bind_eq_error_iff.mp h
  · obtain ⟨huser, rfl⟩ := userOf_refused h
    exact .user huser
  obtain h | ⟨_, -, h⟩ := bind_eq_error_iff.mp h
  · exact .plain (plain_of_require h Rejection.plain_notFound)
  obtain h | ⟨_, -, h⟩ := bind_eq_error_iff.mp h
  · exact .plain (plain_of_require h Rejection.plain_notFound)
  obtain h | ⟨_, -, h⟩ := bind_eq_error_iff.mp h
  · exact .plain (plain_of_checkLength h)
  obtain h | ⟨_, -, h⟩ := bind_eq_error_iff.mp h
  · exact .plain (plain_of_checkType h)
  obtain h | ⟨_, -, h⟩ := bind_eq_error_iff.mp h
  · obtain ⟨error, hbody, rfl⟩ := readBody_refused h
    exact .body (namesUser_of_userOf hid) hbody
  · cases h

theorem plain_of_healthAction (h : healthAction request = .error rejection) : rejection.Plain := by
  rw [healthAction_eq, methodIs_eq] at h
  obtain h | ⟨_, -, h⟩ := bind_eq_error_iff.mp h
  · exact plain_of_require h Rejection.plain_notFound
  obtain h | ⟨_, -, h⟩ := bind_eq_error_iff.mp h
  · exact plain_of_require h (Rejection.plain_of rfl)
  · cases h

theorem plain_of_updateAction_of_health (hhealth : isHealth request.path)
    (h : updateAction request = .error rejection) : rejection.Plain := by
  have husers : request.path.segment 0 ≠ "users".toList := by
    rw [hhealth.1]
    decide
  rw [updateAction_eq, methodIs_eq, require_of_not husers] at h
  obtain h | ⟨_, -, h⟩ := bind_eq_error_iff.mp h
  · exact plain_of_require h (Rejection.plain_of rfl)
  · cases h
    exact Rejection.plain_notFound

theorem refusal_of_action (h : action request = .error rejection) :
    Refusal store request rejection := by
  by_cases hhealth : isHealth request.path
  · unfold action at h
    split at h
    · cases h
    · next first hfirst =>
      split at h
      · cases h
      · next second hsecond =>
        cases h
        have hplain := plain_of_updateAction_of_health hhealth hsecond
        exact .plain (hplain.combine (plain_of_healthAction hfirst))
  · rw [action_of_not_health hhealth] at h
    exact refusal_of_updateAction h

end Api

namespace Service

def rejection? (store : Store) (request : Request) : Option Rejection :=
  match Api.action request with
  | .error rejection => some rejection
  | .ok .health => none
  | .ok (.update id update) =>
    match store.update id update.fcmToken with
    | .ok _ => none
    | .error cause => some (.of (.api (.store cause)))

variable (service other : Service) (now : Calendar.UtcTime) {store : Store} {request : Request}
  {rejection : Rejection}

theorem source_of_rejection (h : rejection? store request = some rejection) :
    Api.action request = .error rejection ∨ ∃ id token, Api.Admits request id token ∧
      token ∈ store.refused ∧ rejection = .of (.api (.store store.failure)) := by
  cases haction : Api.action request with
  | error found =>
    rw [rejection?, haction] at h
    cases h
    exact .inl rfl
  | ok action =>
    cases action with
    | health =>
      rw [rejection?, haction] at h
      cases h
    | update id update =>
      have hadmits := Api.action_eq_update_iff.mp haction
      rw [rejection?, haction] at h
      by_cases hrefused : update.fcmToken ∈ store.refused
      · simp only [Store.update_of_refused hrefused] at h
        cases h
        exact .inr ⟨id, update.fcmToken, hadmits, hrefused, rfl⟩
      · simp only [Store.update_of_not_refused hrefused] at h
        cases h

theorem accepted_of_no_rejection (h : rejection? store request = none) :
    Api.action request = .ok .health ∨
      ∃ id token, Api.Admits request id token ∧ token ∉ store.refused := by
  cases haction : Api.action request with
  | error found =>
    rw [rejection?, haction] at h
    cases h
  | ok action =>
    cases action with
    | health => exact .inl rfl
    | update id update =>
      have hadmits := Api.action_eq_update_iff.mp haction
      refine .inr ⟨id, update.fcmToken, hadmits, fun hrefused => ?_⟩
      rw [rejection?, haction] at h
      simp only [Store.update_of_refused hrefused] at h
      cases h

theorem respond_of_rejection (h : rejection? store request = some rejection) :
    service.respond now store request =
      ⟨(refuse service.recovers rejection).1, (refuse service.recovers rejection).2, store⟩ := by
  obtain haction | ⟨id, token, hadmits, hrefused, rfl⟩ := source_of_rejection h
  · exact service.respond_of_rejected now haction
  · exact service.respond_of_refused now hadmits hrefused

theorem respond_of_no_rejection (h : rejection? store request = none) :
    service.respond now store request = other.respond now store request := by
  obtain haction | ⟨id, token, hadmits, hfree⟩ := accepted_of_no_rejection h
  · rw [service.respond_of_health now haction, other.respond_of_health now haction]
  · rw [service.respond_of_admits now hadmits hfree, other.respond_of_admits now hadmits hfree]

theorem refusal_of_rejection (h : rejection? store request = some rejection) :
    Api.Refusal store request rejection := by
  obtain haction | ⟨id, token, hadmits, hrefused, rfl⟩ := source_of_rejection h
  · exact Api.refusal_of_action haction
  · exact .store hadmits hrefused

theorem refuse_of_foreign (recovers : Bool) (hapi : rejection.apiError? = none)
    (hbody : rejection.bodyError? = none) : refuse recovers rejection = (rejection.reply, []) := by
  unfold refuse Api.recover
  cases recovers with
  | false => rfl
  | true => simp only [hapi, hbody, if_true]

theorem refuse_of_plain (recovers : Bool) (h : rejection.Plain) :
    refuse recovers rejection = (rejection.reply, []) :=
  refuse_of_foreign recovers h.apiError? h.bodyError?

end Service

end Gatehouse
