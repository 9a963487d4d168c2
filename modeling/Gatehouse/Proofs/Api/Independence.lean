import Gatehouse.Proofs.Api.Answer

/-! Requests for different users do not meet. An answer depends on no other request, and what a user
holds depends only on the requests addressed to that user, so requests can change places as long as
those addressed to one user keep their order, and one that is sent again at once does nothing more.
-/

namespace Gatehouse

open Http

def Http.Request.addressee? (request : Request) : Option ResourceId :=
  if request.method = "PATCH" ∧ request.path.segment 0 = "users".toList ∧
      request.path.segment 2 = "fcm-token".toList ∧ request.path.endsAfter 3 then request.userId?
  else none

theorem Api.Admits.addressee {request : Request} {id : ResourceId} {token : String}
    (h : Admits request id token) : request.addressee? = some id := by
  rw [Request.addressee?, if_pos ⟨h.method, h.users, h.fcmToken, h.ends⟩, h.user]

theorem TokenTable.put_put (table : TokenTable) (id : ResourceId) (token : String) :
    (table.put id token).put id token = table.put id token := by
  rw [put, put, List.filter_cons_of_neg (by simp), List.filter_filter]
  simp only [Bool.and_self]

namespace Store

structure Alike (a b : Store) : Prop where
  refused : a.refused = b.refused
  failure : a.failure = b.failure
  tokens : ∀ id, a.table.get? id = b.table.get? id

variable {a b store : Store} {request : Request} {id : ResourceId}

theorem get?_applied_of_ne (h : request.addressee? ≠ some id) :
    (request.applied store).table.get? id = store.table.get? id := by
  obtain ⟨other, token, hadmits, -, happlied⟩ | ⟨-, happlied⟩ := request.applied_cases store
  · have hne : id ≠ other := fun heq => h (heq ▸ hadmits.addressee)
    rw [happlied, holding]
    exact TokenTable.get?_put_of_ne _ _ hne
  · rw [happlied]

/-- What a user holds after a request was not decided by what others held before. -/
theorem get?_applied_congr (hrefused : a.refused = b.refused)
    (h : a.table.get? id = b.table.get? id) :
    (request.applied a).table.get? id = (request.applied b).table.get? id := by
  obtain ⟨user, token, hadmits, hfree, happlied⟩ | ⟨hrefuses, happlied⟩ := request.applied_cases a
  · rw [happlied, Request.applied_of_admits hadmits (hrefused ▸ hfree), holding, holding]
    by_cases huser : id = user
    · subst huser
      rw [TokenTable.get?_put_self, TokenTable.get?_put_self]
    · rw [TokenTable.get?_put_of_ne _ _ huser, TokenTable.get?_put_of_ne _ _ huser, h]
  · obtain ⟨user, token, hadmits, hfree, -⟩ | ⟨-, happliedB⟩ := request.applied_cases b
    · exact absurd (hrefuses user token hadmits) (hrefused ▸ hfree)
    · rw [happlied, happliedB, h]

theorem get?_after_filter (hrefused : a.refused = b.refused)
    (h : a.table.get? id = b.table.get? id) (requests : List Request) :
    (a.after requests).table.get? id =
      (b.after (requests.filter fun request => request.addressee? = some id)).table.get? id := by
  induction requests generalizing a b with
  | nil => exact h
  | cons request requests ih =>
    by_cases haddressed : request.addressee? = some id
    · rw [List.filter_cons_of_pos (by simpa using haddressed), after_cons, after_cons]
      refine ih ?_ (get?_applied_congr hrefused h)
      rw [Request.applied_refused, Request.applied_refused, hrefused]
    · rw [List.filter_cons_of_neg (by simpa using haddressed), after_cons]
      refine ih ?_ ((get?_applied_of_ne haddressed).trans h)
      rw [Request.applied_refused, hrefused]

theorem alike_after (store : Store) {requests others : List Request}
    (h : ∀ id, requests.filter (fun request => request.addressee? = some id) =
      others.filter fun request => request.addressee? = some id) :
    Alike (store.after requests) (store.after others) where
  refused := by rw [after_refused, after_refused]
  failure := by rw [after_failure, after_failure]
  tokens id := by rw [get?_after_filter rfl rfl, h, ← get?_after_filter rfl rfl]

theorem applied_applied (store : Store) (request : Request) :
    request.applied (request.applied store) = request.applied store := by
  obtain ⟨id, token, hadmits, hfree, happlied⟩ | ⟨-, happlied⟩ := request.applied_cases store
  · have hagain : request.applied (store.holding id token) =
        (store.holding id token).holding id token := Request.applied_of_admits hadmits hfree
    rw [happlied, hagain, holding, holding, TokenTable.put_put]
  · rw [happlied, happlied]

end Store

namespace Service

variable (service : Service) (store : Store)

theorem run_append (requests more : List (Calendar.UtcTime × Request)) :
    service.run store (requests ++ more) =
      service.run store requests ++ service.run (service.finalStore store requests) more := by
  induction requests generalizing store with
  | nil => rfl
  | cons step requests ih =>
    obtain ⟨now, request⟩ := step
    rw [List.cons_append, run, run, ih, finalStore_cons, List.cons_append]

theorem answer_run (requests : List (Calendar.UtcTime × Request)) {i : Nat}
    {now : Calendar.UtcTime} {request : Request} (h : requests[i]? = some (now, request))
    (later : Calendar.UtcTime) :
    ∃ exchange, (service.run store requests)[i]? = some exchange ∧
      exchange.answer = (service.respond later store request).answer := by
  refine ⟨_, by rw [run_getElem?, h, Option.map_some], ?_⟩
  refine service.answer_respond_congr request ?_ ?_ now later
  · rw [finalStore_eq, Store.after_refused]
  · rw [finalStore_eq, Store.after_failure]

/-- Requests may change places as long as those addressed to one user keep their order, and may be
sent again at once; neither changes an answer, apart from the time it tells, or what is held. -/
theorem run_independent :
    (∀ (requests : List (Calendar.UtcTime × Request)) (order : List (Fin requests.length))
      (later : Fin requests.length → Calendar.UtcTime),
      order.Perm (List.finRange requests.length) →
      (∀ id, order.filter (fun i => requests[i].2.addressee? = some id) =
        (List.finRange requests.length).filter fun i => requests[i].2.addressee? = some id) →
      let reordered := order.map fun i => (later i, requests[i].2)
      (∀ (k : Nat) (i : Fin requests.length), order[k]? = some i →
        ∃ exchange original, (service.run store reordered)[k]? = some exchange ∧
          (service.run store requests)[i.val]? = some original ∧
          exchange.answer = original.answer) ∧
      (service.finalStore store reordered).Alike (service.finalStore store requests)) ∧
    ∀ (before after : List (Calendar.UtcTime × Request)) (now again : Calendar.UtcTime)
      (request : Request),
      let once := before ++ (now, request) :: after
      let twice := before ++ (now, request) :: (again, request) :: after
      service.finalStore store twice = service.finalStore store once ∧
      ∃ front exchange copy rest, front.length = before.length ∧
        service.run store once = front ++ exchange :: rest ∧
        service.run store twice = front ++ exchange :: copy :: rest ∧
        copy.answer = exchange.answer := by
  refine ⟨fun requests order later hperm hkeeps => ⟨fun k i hk => ?_, ?_⟩,
    fun before after now again request => ⟨?_, ?_⟩⟩
  · have hreordered : (order.map fun i => (later i, requests[i].2))[k]? =
        some (later i, requests[i].2) := by
      rw [List.getElem?_map, hk, Option.map_some]
    have hrequests : requests[i.val]? = some (requests[i].1, requests[i].2) :=
      List.getElem?_eq_getElem i.isLt
    obtain ⟨exchange, hexchange, hanswer⟩ := service.answer_run store _ hreordered (later i)
    obtain ⟨original, horiginal, hsame⟩ := service.answer_run store _ hrequests (later i)
    exact ⟨exchange, original, hexchange, horiginal, hanswer.trans hsame.symm⟩
  · have horiginal : requests.map Prod.snd =
        (List.finRange requests.length).map fun i => requests[i].2 := by
      conv_lhs => rw [← List.map_getElem_finRange requests, List.map_map]
      rfl
    rw [finalStore_eq, finalStore_eq, List.map_map, horiginal]
    refine store.alike_after fun id => ?_
    rw [List.filter_map, List.filter_map]
    exact congrArg (List.map fun i : Fin requests.length => requests[i].2) (hkeeps id)
  · simp only [finalStore_eq, List.map_append, List.map_cons, Store.after_append,
      Store.after_cons, Store.applied_applied]
  · let original := service.respond now (service.finalStore store before) request
    let copy := service.respond again original.store request
    have hstore : copy.store = original.store := by
      rw [respond_store, respond_store, Store.applied_applied]
    refine ⟨service.run store before, original, copy, service.run original.store after,
      service.length_run store before, service.run_append store before _, ?_, ?_⟩
    · rw [← hstore]
      exact service.run_append store before _
    · refine service.answer_respond_congr request ?_ ?_ again now
      · rw [respond_store, Request.applied_refused]
      · rw [respond_store, Request.applied_failure]

theorem run_independent_two_users :
    let service : Service := ⟨⟨.standard, .standard⟩, true⟩
    let register := fun user token : String => (Calendar.UtcTime.epoch, Request.mk "PATCH"
      ("/users/" ++ user ++ "/fcm-token") [("content-length", "16")]
      (Text.Utf8.encode ("\x7b\"fcmToken\":\"" ++ token ++ "\"\x7d")))
    let a := register "550e8400-e29b-41d4-a716-446655440000" "a"
    let b := register "550e8400-e29b-41d4-a716-446655440000" "b"
    let c := register "550e8400-e29b-41d4-a716-44665544000%31" "c"
    (service.finalStore .permissive [c, a, b]).Alike
      (service.finalStore .permissive [a, c, b]) := by
  intro service register a b c
  let order : List (Fin [a, c, b].length) := [⟨1, by decide⟩, ⟨0, by decide⟩, ⟨2, by decide⟩]
  have ha : a.2.addressee? = some ⟨"550e8400-e29b-41d4-a716-446655440000"⟩ := by decide +kernel
  have hb : b.2.addressee? = some ⟨"550e8400-e29b-41d4-a716-446655440000"⟩ := by decide +kernel
  have hc : c.2.addressee? = some ⟨"550e8400-e29b-41d4-a716-446655440001"⟩ := by decide +kernel
  have hkeeps : ∀ id, order.filter (fun i => [a, c, b][i].2.addressee? = some id) =
      (List.finRange [a, c, b].length).filter fun i => [a, c, b][i].2.addressee? = some id := by
    intro id
    by_cases h : a.2.addressee? = some id
    · have hother : c.2.addressee? ≠ some id := by
        rw [← h, ha, hc]
        decide
      simp [order, List.finRange_succ, h, hb.trans (ha.symm.trans h), hother]
    · have hagain : b.2.addressee? ≠ some id := by rwa [hb, ← ha]
      simp [order, List.finRange_succ, List.filter_cons, h, hagain]
  exact ((run_independent service .permissive).1 [a, c, b] order (fun _ => .epoch) (by decide)
    hkeeps).2

end Service

end Gatehouse
