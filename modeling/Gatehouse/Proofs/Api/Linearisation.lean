import Gatehouse.Proofs.Api.Flight

/-! A flight ends as if its requests had been served one at a time, in the order in which they took
the lock; those that never take it may stand anywhere, since they ask nothing of the store. -/

namespace Gatehouse

open Http

namespace Flight

variable {n : Nat}

def succeeded (s : Flight n) (i : Fin n) : Bool :=
  match s.stage i with
  | .answered answer => decide (answer.1.status = .noContent)
  | _ => false

variable (service : Service) (requests : Fin n → Calendar.UtcTime × Request) (store : Store)

structure EndsAs (s : Flight n) (order : List (Fin n)) : Prop where
  contents : s.store = service.finalStore store (order.map requests)
  answers : ∀ i, ∃ (k : Nat) (exchange : Exchange), order[k]? = some i ∧
    (service.run store (order.map requests))[k]? = some exchange ∧
    s.stage i = .answered exchange.told

/-- The end of a flight: it is that of a run in the order in which the lock was taken, and what the
store holds was written by the requests that were answered 204, each of them once. -/
structure Linearised (s : Flight n) : Prop where
  nodup : s.takers.Nodup
  endsAs : ∀ order : List (Fin n), order.Perm (List.finRange n) →
    order.filter (· ∈ s.takers) = s.takers → s.EndsAs service requests store order
  updates : ∀ i, s.succeeded i = true → i ∈ s.takers ∧
    ∃ id token, Api.Admits (requests i).2 id token ∧ token ∉ store.refused
  contents : s.store = storeAfter requests store (s.takers.filter s.succeeded)

variable {service requests store} {s : Flight n} {written : List (Fin n)}

theorem storeAfter_filter {keep : Fin n → Bool} {order : List (Fin n)}
    (h : ∀ i ∈ order, keep i = false → ∀ other : Store, other.refused = store.refused →
      (requests i).2.applied other = other) :
    storeAfter requests store (order.filter keep) = storeAfter requests store order := by
  induction order using List.reverseRecOn with
  | nil => rfl
  | append_singleton order i ih =>
    have hbefore := ih fun j hj => h j (List.mem_append_left [i] hj)
    rw [List.filter_append, storeAfter_concat]
    by_cases hkeep : keep i = true
    · rw [List.filter_cons_of_pos hkeep, List.filter_nil, storeAfter_concat, hbefore]
    · have hsame := h i (List.mem_append_right order List.mem_cons_self)
        (Bool.eq_false_iff.mpr hkeep) (storeAfter requests store order) (Store.after_refused _ _)
      rw [List.filter_cons_of_neg hkeep, List.filter_nil, List.append_nil, hbefore, hsame]

theorem filter_take_of_split {keep : Fin n → Bool} {order before after : List (Fin n)} {k : Nat}
    {i : Fin n} (hk : order[k]? = some i) (hsplit : order.filter keep = before ++ i :: after)
    (hnodup : (order.filter keep).Nodup) : (order.take k).filter keep = before := by
  obtain ⟨hlt, hget⟩ := List.getElem?_eq_some_iff.mp hk
  have hkeep : keep i = true := by
    have hmem : i ∈ order.filter keep := by
      rw [hsplit]
      exact List.mem_append_right before List.mem_cons_self
    exact (List.mem_filter.mp hmem).2
  have horder : order.filter keep =
      (order.take k).filter keep ++ i :: (order.drop (k + 1)).filter keep := by
    conv_lhs => rw [← List.take_append_drop k order, ← List.getElem_cons_drop hlt, hget]
    rw [List.filter_append, List.filter_cons_of_pos hkeep]
  rw [horder] at hnodup hsplit
  have hout := (List.nodup_cons.mp (List.perm_middle.nodup_iff.mp hnodup)).1
  rw [List.mem_append, not_or] at hout
  exact ((List.append_cons_inj_of_notMem hout.1 hout.2).mp hsplit).1

namespace Consistent

variable (h : Consistent service requests store s written) (hfinished : s.Finished)

include h hfinished

theorem answered_of_finished (i : Fin n) :
    ∃ answer, s.stage i = .answered answer ∧ s.holder ≠ some i ∧
      Explained service requests store s.takers written i answer := by
  have hnone := hfinished i
  have hfits := h.fits i
  cases hstage : s.stage i with
  | answered answer =>
    rw [hstage] at hfits
    exact ⟨answer, rfl, hfits⟩
  | _ =>
    rw [hstage] at hnone
    cases hnone

theorem takers_of_finished : s.takers = written := by
  refine h.free (Option.eq_none_iff_forall_not_mem.mpr fun i => ?_)
  obtain ⟨-, -, hholder, -⟩ := h.answered_of_finished hfinished i
  exact hholder

theorem not_admits_of_finished {i : Fin n} (hi : i ∉ s.takers) :
    ∀ id token, ¬Api.Admits (requests i).2 id token := by
  obtain ⟨answer, -, -, hexplained⟩ := h.answered_of_finished hfinished i
  cases hexplained with
  | wrote hwritten hanswer =>
    rw [h.takers_of_finished hfinished, hwritten] at hi
    simp at hi
  | aside hout hnot hanswer => exact hnot

theorem endsAs_of_finished {order : List (Fin n)} (hperm : order.Perm (List.finRange n))
    (horder : order.filter (· ∈ s.takers) = s.takers) :
    s.EndsAs service requests store order := by
  have hwritten := h.takers_of_finished hfinished
  have hfilter : ∀ part : List (Fin n),
      storeAfter requests store (part.filter (· ∈ s.takers)) = storeAfter requests store part := by
    intro part
    refine storeAfter_filter fun i _ hi other _ => ?_
    exact Request.applied_of_not_admits (h.not_admits_of_finished hfinished (by simpa using hi))
  have hmap : ∀ part : List (Fin n),
      service.finalStore store (part.map requests) = storeAfter requests store part := by
    intro part
    rw [Service.finalStore_eq, storeAfter, List.map_map]
    rfl
  refine ⟨?_, fun i => ?_⟩
  · rw [hmap, ← hfilter order, horder, hwritten, h.contents]
  · obtain ⟨answer, hstage, -, hexplained⟩ := h.answered_of_finished hfinished i
    obtain ⟨k, hk⟩ := List.mem_iff_getElem?.mp (hperm.mem_iff.mpr (List.mem_finRange i))
    have hserved : (service.run store (order.map requests))[k]? = some (service.respond
        (requests i).1 (storeAfter requests store (order.take k)) (requests i).2) := by
      rw [Service.run_getElem?, List.getElem?_map, hk, ← List.map_take, hmap]
      rfl
    refine ⟨k, _, hk, hserved, ?_⟩
    rw [hstage]
    refine congrArg Stage.answered ?_
    cases hexplained with
    | @wrote before after hsplit hanswer =>
      -- Those before it in the order who took the lock are those who wrote before it.
      have htakers : order.filter (· ∈ s.takers) = before ++ i :: after := by
        rw [horder, hwritten, hsplit]
      have hbefore := filter_take_of_split hk htakers (horder.symm ▸ h.nodup)
      rw [hanswer, ← hbefore, hfilter]
      rfl
    | aside hout hnot hanswer => exact hanswer _

theorem succeeded_iff (i : Fin n) :
    s.succeeded i = true ↔
      ∃ id token, Api.Admits (requests i).2 id token ∧ token ∉ store.refused := by
  obtain ⟨answer, hstage, -, hexplained⟩ := h.answered_of_finished hfinished i
  have hanswer : ∃ other : Store, other.refused = store.refused ∧
      answer = answerOn service requests other i := by
    cases hexplained with
    | wrote hsplit hanswer => exact ⟨_, Store.after_refused _ _, hanswer⟩
    | aside hout hnot hanswer => exact ⟨store, rfl, hanswer store⟩
  obtain ⟨other, hrefused, rfl⟩ := hanswer
  rw [succeeded, hstage, ← hrefused, ← service.respond_status_iff (requests i).1]
  exact decide_eq_true_iff

theorem linearised_of_finished : s.Linearised service requests store where
  nodup := h.nodup
  endsAs _ hperm horder := h.endsAs_of_finished hfinished hperm horder
  updates i hi := by
    obtain ⟨id, token, hadmits, hfree⟩ := (h.succeeded_iff hfinished i).mp hi
    refine ⟨?_, id, token, hadmits, hfree⟩
    by_contra hout
    exact h.not_admits_of_finished hfinished hout id token hadmits
  contents := by
    rw [storeAfter_filter, h.takers_of_finished hfinished, h.contents]
    intro i _ hi other hrefused
    obtain ⟨id, token, hadmits, hfree, -⟩ | ⟨-, hsame⟩ := (requests i).2.applied_cases other
    · have hsucceeded := (h.succeeded_iff hfinished i).mpr ⟨id, token, hadmits, hrefused ▸ hfree⟩
      exact absurd hsucceeded (Bool.eq_false_iff.mp hi)
    · exact hsame

end Consistent

/-- Any schedule of requests in flight can be carried on until all are answered, ends after at most
six moves of each, and then comes to the same as serving them one at a time. -/
theorem flight_linearises {schedule : List (Fin n)}
    (h : (start store).follow? service requests schedule = some s) :
    schedule.length ≤ 6 * n ∧
      (s.Finished ∨ ∃ i s', s.advance? service requests i = some s') ∧
      (s.Finished → s.Linearised service requests store) := by
  obtain ⟨written, hconsistent⟩ := consistent_start.follow h
  refine ⟨?_, ?_, hconsistent.linearised_of_finished⟩
  · have hlength := length_follow h
    have hstart : ∑ j : Fin n, ((start store).stage j).remaining = 6 * n := by
      simp [start, Stage.remaining, Nat.mul_comm]
    omega
  · by_cases hfinished : s.Finished
    · exact .inl hfinished
    · exact .inr (hconsistent.exists_advance hfinished)

/-- The first of two requests for one user is the last to take the lock, and so the one whose token
stays; a request that waits for nobody is answered in between. -/
theorem flight_linearises_overtaken :
    let user := "550e8400-e29b-41d4-a716-446655440000"
    let register := fun token : String => (Calendar.UtcTime.epoch, Request.mk "PATCH"
      ("/users/" ++ user ++ "/fcm-token") [("content-length", "16")]
      (Text.Utf8.encode ("\x7b\"fcmToken\":\"" ++ token ++ "\"\x7d")))
    let requests : Fin 3 → Calendar.UtcTime × Request := fun
      | 0 => register "a"
      | 1 => register "b"
      | 2 => (.epoch, ⟨"GET", "/health", [], []⟩)
    let service : Service := ⟨⟨.standard, .standard⟩, true⟩
    ∃ s, (start .permissive).follow? service requests [0, 1, 1, 2, 1, 2, 1, 1, 0, 1, 0, 0, 0, 0] =
        some s ∧
      s.store.table.get? ⟨user⟩ = some "a" ∧
      s.EndsAs service requests .permissive [1, 2, 0] := by
  intro user register requests service
  have hfollow : ((start .permissive).follow? service requests
      [0, 1, 1, 2, 1, 2, 1, 1, 0, 1, 0, 0, 0, 0]).any (fun s => decide (s.Finished ∧
        s.takers = [1, 0] ∧ s.store.table.get? ⟨user⟩ = some "a")) = true := by
    decide +kernel
  obtain ⟨s, hs, hend⟩ := (Option.any_eq_true _ _).mp hfollow
  obtain ⟨hfinished, htakers, htable⟩ := of_decide_eq_true hend
  obtain ⟨-, -, hlinearised⟩ := flight_linearises hs
  refine ⟨s, hs, htable, (hlinearised hfinished).endsAs [1, 2, 0] (by decide) ?_⟩
  rw [htakers]
  decide

end Flight

end Gatehouse
