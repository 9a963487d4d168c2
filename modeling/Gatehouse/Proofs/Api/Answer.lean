import Gatehouse.Proofs.Api.Run

/-! What an answer depends on. Of the store it is only which tokens are refused, and in which words,
never what is held; of the clock it is only the time that a health reply tells. What becomes of the
store depends on the request alone. -/

namespace Gatehouse

open Http

def Json.Value.masked : Json.Value → Json.Value
  | .object members => .object (members.map fun member =>
      if member.1 = "timestamp" then ("timestamp", .text "<timestamp>") else member)
  | value => value

def Http.Reply.masked (reply : Reply) : Reply :=
  match reply.content with
  | .json value => ⟨reply.status, .json value.masked⟩
  | _ => reply

def Exchange.answer (exchange : Exchange) : Reply × List Log.Event :=
  (exchange.reply.masked, exchange.events)

def Http.Request.applied (request : Request) (store : Store) : Store :=
  match Api.action request with
  | .ok (.update id update) => (store.update id update.fcmToken).toOption.getD store
  | _ => store

namespace Http.Request

variable {request : Request} {store : Store} {id : ResourceId} {token : String}

theorem applied_of_admits (h : Api.Admits request id token) (hfree : token ∉ store.refused) :
    request.applied store = store.holding id token := by
  rw [applied, Api.action_eq_update_iff.mpr h]
  simp only [Store.update_of_not_refused hfree, Except.toOption, Option.getD_some]

theorem applied_of_refused (h : Api.Admits request id token) (hrefused : token ∈ store.refused) :
    request.applied store = store := by
  rw [applied, Api.action_eq_update_iff.mpr h]
  simp only [Store.update_of_refused hrefused, Except.toOption, Option.getD_none]

theorem applied_of_not_admits (h : ∀ id token, ¬Api.Admits request id token) :
    request.applied store = store := by
  unfold applied
  split
  · next id update haction => exact absurd (Api.action_eq_update_iff.mp haction) (h id _)
  · rfl

theorem applied_cases (request : Request) (store : Store) :
    (∃ id token, Api.Admits request id token ∧ token ∉ store.refused ∧
      request.applied store = store.holding id token) ∨
    (∀ id token, Api.Admits request id token → token ∈ store.refused) ∧
      request.applied store = store := by
  by_cases h : ∃ id token, Api.Admits request id token
  · obtain ⟨id, token, hadmits⟩ := h
    by_cases hrefused : token ∈ store.refused
    · refine .inr ⟨fun other again hagain => ?_, applied_of_refused hadmits hrefused⟩
      rwa [Option.some.inj (hagain.body.symm.trans hadmits.body)]
    · exact .inl ⟨id, token, hadmits, hrefused, applied_of_admits hadmits hrefused⟩
  · have hnot : ∀ id token, ¬Api.Admits request id token := fun id token hadmits =>
      h ⟨id, token, hadmits⟩
    exact .inr ⟨fun id token hadmits => absurd hadmits (hnot id token),
      applied_of_not_admits hnot⟩

@[simp] theorem applied_refused : (request.applied store).refused = store.refused := by
  obtain ⟨id, token, -, -, h⟩ | ⟨-, h⟩ := request.applied_cases store <;> rw [h]
  rfl

@[simp] theorem applied_failure : (request.applied store).failure = store.failure := by
  obtain ⟨id, token, -, -, h⟩ | ⟨-, h⟩ := request.applied_cases store <;> rw [h]
  rfl

end Http.Request

namespace Store

def after (store : Store) (requests : List Request) : Store :=
  requests.foldl (fun store request => request.applied store) store

@[simp] theorem after_nil (store : Store) : store.after [] = store := rfl

@[simp] theorem after_cons (store : Store) (request : Request) (requests : List Request) :
    store.after (request :: requests) = (request.applied store).after requests := rfl

theorem after_append (store : Store) (requests more : List Request) :
    store.after (requests ++ more) = (store.after requests).after more :=
  List.foldl_append

@[simp] theorem after_refused (store : Store) (requests : List Request) :
    (store.after requests).refused = store.refused := by
  induction requests generalizing store with
  | nil => rfl
  | cons request requests ih => rw [after_cons, ih, Request.applied_refused]

@[simp] theorem after_failure (store : Store) (requests : List Request) :
    (store.after requests).failure = store.failure := by
  induction requests generalizing store with
  | nil => rfl
  | cons request requests ih => rw [after_cons, ih, Request.applied_failure]

end Store

namespace Service

variable (service : Service) (now : Calendar.UtcTime) (store : Store) (request : Request)

theorem respond_store : (service.respond now store request).store = request.applied store := by
  rw [Request.applied]
  cases haction : Api.action request with
  | error rejection => rw [service.respond_of_rejected now haction]
  | ok action =>
    cases action with
    | health => rw [service.respond_of_health now haction]
    | update id update =>
      have hadmits := Api.action_eq_update_iff.mp haction
      by_cases h : update.fcmToken ∈ store.refused
      · rw [service.respond_of_refused now hadmits h]
        simp only [Store.update_of_refused h, Except.toOption, Option.getD_none]
      · rw [service.respond_of_admits now hadmits h]
        simp only [Store.update_of_not_refused h, Except.toOption, Option.getD_some]

theorem healthReply_masked :
    (healthReply now).masked = ⟨.ok, .json (Health.body "<timestamp>")⟩ := rfl

theorem answer_respond_congr {a b : Store} (hrefused : a.refused = b.refused)
    (hfailure : a.failure = b.failure) (now later : Calendar.UtcTime) :
    (service.respond now a request).answer = (service.respond later b request).answer := by
  cases haction : Api.action request with
  | error rejection =>
    rw [service.respond_of_rejected now haction, service.respond_of_rejected later haction]
    rfl
  | ok action =>
    cases action with
    | health =>
      rw [service.respond_of_health now haction, service.respond_of_health later haction,
        Exchange.answer, Exchange.answer, healthReply_masked, healthReply_masked]
    | update id update =>
      have hadmits := Api.action_eq_update_iff.mp haction
      by_cases h : update.fcmToken ∈ a.refused
      · rw [service.respond_of_refused now hadmits h,
          service.respond_of_refused later hadmits (hrefused ▸ h), hfailure]
        rfl
      · rw [service.respond_of_admits now hadmits h,
          service.respond_of_admits later hadmits (hrefused ▸ h)]
        rfl

theorem finalStore_eq (requests : List (Calendar.UtcTime × Request)) :
    service.finalStore store requests = store.after (requests.map Prod.snd) := by
  induction requests generalizing store with
  | nil => rfl
  | cons step requests ih =>
    obtain ⟨now, request⟩ := step
    rw [finalStore_cons, respond_store, ih, List.map_cons, Store.after_cons]

end Service

end Gatehouse
