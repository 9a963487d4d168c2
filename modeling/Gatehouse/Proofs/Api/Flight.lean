import Gatehouse.Proofs.Api.Answer
import Mathlib.Algebra.Order.BigOperators.Group.Finset
import Mathlib.Data.Fintype.BigOperators

/-! Requests in flight. Each makes its checks by itself, waits for the lock on the store, looks at
the store and writes it back while it holds the lock, and answers after it has let go. A schedule
tells which request moves next; what one move keeps is carried along any schedule. -/

namespace Gatehouse

open Http

def Exchange.told (exchange : Exchange) : Reply × List Log.Event :=
  (exchange.reply, exchange.events)

inductive Stage where
  | arrived
  | waiting (id : ResourceId) (update : TokenUpdate)
  | holding (id : ResourceId) (update : TokenUpdate)
  | updating (id : ResourceId) (update : TokenUpdate) (seen : Store)
  | settled (answer : Reply × List Log.Event)
  | ready (answer : Reply × List Log.Event)
  | answered (answer : Reply × List Log.Event)

namespace Stage

def remaining : Stage → Nat
  | arrived => 6
  | waiting .. => 5
  | holding .. => 4
  | updating .. => 3
  | settled _ => 2
  | ready _ => 1
  | answered _ => 0

end Stage

/-- Requests in flight on one store. The lock has at most one holder; `takers` records who took it,
in order. -/
structure Flight (n : Nat) where
  store : Store
  holder : Option (Fin n)
  takers : List (Fin n)
  stage : Fin n → Stage

namespace Service

def checked (service : Service) (now : Calendar.UtcTime) (request : Request) : Stage :=
  match Api.action request with
  | .error rejection => .ready (refuse service.recovers rejection)
  | .ok .health => .ready (healthReply now, [])
  | .ok (.update id update) => .waiting id update

theorem checked_remaining (service : Service) (now : Calendar.UtcTime) (request : Request) :
    (service.checked now request).remaining < 6 := by
  unfold checked
  split <;> simp [Stage.remaining]

def outcome (service : Service) (id : ResourceId) : Except String Store → Reply × List Log.Event
  | .ok _ => (⟨.noContent, .empty⟩, [.tokenUpdated id.text])
  | .error cause => refuse service.recovers (.of (.api (.store cause)))

theorem respond_of_update (service : Service) (now : Calendar.UtcTime) (store : Store)
    {request : Request} {id : ResourceId} {update : TokenUpdate}
    (h : Api.action request = .ok (.update id update)) :
    (service.respond now store request).told =
      service.outcome id (store.update id update.fcmToken) := by
  simp only [respond, h]
  cases store.update id update.fcmToken <;> rfl

theorem checked_of_not_admits (service : Service) (now : Calendar.UtcTime) (store : Store)
    {request : Request} (h : ∀ id token, ¬Api.Admits request id token) :
    service.checked now request = .ready (service.respond now store request).told := by
  rw [checked, respond]
  cases haction : Api.action request with
  | error rejection => rfl
  | ok action =>
    cases action with
    | health => rfl
    | update id update => exact absurd (Api.action_eq_update_iff.mp haction) (h id _)

end Service

namespace Flight

variable {n : Nat}

def start (store : Store) : Flight n := ⟨store, none, [], fun _ => .arrived⟩

def put (s : Flight n) (i : Fin n) (stage : Stage) : Flight n :=
  { s with stage := Function.update s.stage i stage }

def advance? (service : Service) (requests : Fin n → Calendar.UtcTime × Request) (s : Flight n)
    (i : Fin n) : Option (Flight n) :=
  match s.stage i with
  | .arrived => some (s.put i (service.checked (requests i).1 (requests i).2))
  | .waiting id update =>
    if s.holder = none then
      some { s.put i (.holding id update) with holder := some i, takers := s.takers ++ [i] }
    else none
  | .holding id update => some (s.put i (.updating id update s.store))
  | .updating id update seen =>
    let written := seen.update id update.fcmToken
    some { s.put i (.settled (service.outcome id written)) with
      store := written.toOption.getD s.store }
  | .settled answer => some { s.put i (.ready answer) with holder := none }
  | .ready answer => some (s.put i (.answered answer))
  | .answered _ => none

def follow? (service : Service) (requests : Fin n → Calendar.UtcTime × Request) (s : Flight n)
    (schedule : List (Fin n)) : Option (Flight n) :=
  schedule.foldlM (advance? service requests) s

def Finished (s : Flight n) : Prop := ∀ i, (s.stage i).remaining = 0

instance (s : Flight n) : Decidable s.Finished := inferInstanceAs (Decidable (∀ _, _))

@[simp] theorem put_stage_self (s : Flight n) (i : Fin n) (stage : Stage) :
    (s.put i stage).stage i = stage := by
  simp only [put, Function.update_self]

theorem put_stage_of_ne (s : Flight n) {i j : Fin n} (h : j ≠ i) (stage : Stage) :
    (s.put i stage).stage j = s.stage j := by
  simp only [put, Function.update_of_ne h]

section Invariant

variable (service : Service) (requests : Fin n → Calendar.UtcTime × Request) (store : Store)

def storeAfter (order : List (Fin n)) : Store := store.after (order.map fun i => (requests i).2)

def answerOn (i : Fin n) : Reply × List Log.Event :=
  (service.respond (requests i).1 store (requests i).2).told

/-- Where an answer comes from: the request wrote, and was answered on the store that those had left
who wrote before; or it asks nothing of the store. -/
inductive Explained (takers written : List (Fin n)) (i : Fin n) (answer : Reply × List Log.Event) :
    Prop where
  | wrote {before after : List (Fin n)} (hwritten : written = before ++ i :: after)
      (hanswer : answer = answerOn service requests (storeAfter requests store before) i)
  | aside (htakers : i ∉ takers)
      (hnot : ∀ id token, ¬Api.Admits (requests i).2 id token)
      (hanswer : ∀ store, answer = answerOn service requests store i)

def Fits (s : Flight n) (written : List (Fin n)) (i : Fin n) : Stage → Prop
  | .arrived => s.holder ≠ some i ∧ i ∉ s.takers
  | .waiting id update =>
    s.holder ≠ some i ∧ i ∉ s.takers ∧ Api.action (requests i).2 = .ok (.update id update)
  | .holding id update =>
    s.holder = some i ∧ s.takers = written ++ [i] ∧
      Api.action (requests i).2 = .ok (.update id update)
  | .updating id update seen =>
    s.holder = some i ∧ s.takers = written ++ [i] ∧
      Api.action (requests i).2 = .ok (.update id update) ∧ seen = s.store
  | .settled answer =>
    s.holder = some i ∧ s.takers = written ∧
      Explained service requests store s.takers written i answer
  | .ready answer | .answered answer =>
    s.holder ≠ some i ∧ Explained service requests store s.takers written i answer

/-- How a flight stands to the list of those who have written, in order. -/
structure Consistent (s : Flight n) (written : List (Fin n)) : Prop where
  nodup : s.takers.Nodup
  free : s.holder = none → s.takers = written
  contents : s.store = storeAfter requests store written
  fits : ∀ i, Fits service requests store s written i (s.stage i)

variable {service requests store} {s s' : Flight n} {written more : List (Fin n)} {i : Fin n}
  {stage : Stage} {answer : Reply × List Log.Event}

theorem storeAfter_concat (order : List (Fin n)) (i : Fin n) :
    storeAfter requests store (order ++ [i]) =
      (requests i).2.applied (storeAfter requests store order) := by
  rw [storeAfter, List.map_append, Store.after_append]
  rfl

theorem Explained.mono {takers takers' : List (Fin n)}
    (h : Explained service requests store takers written i answer)
    (htakers : i ∈ takers' → i ∈ takers) :
    Explained service requests store takers' (written ++ more) i answer := by
  cases h with
  | wrote hwritten hanswer =>
    have hmore := congrArg (· ++ more) hwritten
    simp only [List.append_assoc, List.cons_append] at hmore
    exact .wrote hmore hanswer
  | aside hout hnot hanswer => exact .aside (fun hin => hout (htakers hin)) hnot hanswer

theorem Fits.aside (h : Fits service requests store s written i stage)
    (hbefore : s.holder ≠ some i) (hafter : s'.holder ≠ some i)
    (htakers : i ∈ s'.takers → i ∈ s.takers) :
    Fits service requests store s' (written ++ more) i stage := by
  cases stage with
  | arrived => exact ⟨hafter, fun hin => h.2 (htakers hin)⟩
  | waiting id update => exact ⟨hafter, fun hin => h.2.1 (htakers hin), h.2.2⟩
  | holding id update => exact absurd h.1 hbefore
  | updating id update seen => exact absurd h.1 hbefore
  | settled answer => exact absurd h.1 hbefore
  | ready answer => exact ⟨hafter, h.2.mono htakers⟩
  | answered answer => exact ⟨hafter, h.2.mono htakers⟩

theorem fits_put (hself : Fits service requests store s' written i stage)
    (hothers : ∀ j, j ≠ i → Fits service requests store s' written j (s.stage j)) (j : Fin n) :
    Fits service requests store s' written j ((s.put i stage).stage j) := by
  by_cases hj : j = i
  · rw [hj, put_stage_self]
    exact hself
  · rw [put_stage_of_ne s hj]
    exact hothers j hj

theorem consistent_start : Consistent service requests store (start store) [] where
  nodup := List.nodup_nil
  free _ := rfl
  contents := rfl
  fits _ := ⟨Option.some_ne_none _ ∘ Eq.symm, List.not_mem_nil⟩

namespace Consistent

theorem fits_of (h : Consistent service requests store s written) (hstage : s.stage i = stage) :
    Fits service requests store s written i stage := hstage ▸ h.fits i

theorem put (h : Consistent service requests store s written)
    (hfits : Fits service requests store s written i stage) :
    Consistent service requests store (s.put i stage) written where
  nodup := h.nodup
  free := h.free
  contents := h.contents
  fits := fits_put hfits fun j _ => h.fits j

theorem check (h : Consistent service requests store s written) (hstage : s.stage i = .arrived) :
    Consistent service requests store
      (s.put i (service.checked (requests i).1 (requests i).2)) written := by
  obtain ⟨hholder, htakers⟩ := h.fits_of hstage
  by_cases hadmits : ∃ id token, Api.Admits (requests i).2 id token
  · obtain ⟨id, token, hadmits⟩ := hadmits
    have haction := Api.action_eq_update_iff.mpr hadmits
    have hchecked : service.checked (requests i).1 (requests i).2 = .waiting id ⟨token⟩ := by
      rw [Service.checked, haction]
    rw [hchecked]
    exact h.put ⟨hholder, htakers, haction⟩
  · have hnot : ∀ id token, ¬Api.Admits (requests i).2 id token := fun id token h =>
      hadmits ⟨id, token, h⟩
    have hready := fun store => service.checked_of_not_admits (requests i).1 store hnot
    rw [hready store]
    exact h.put ⟨hholder, .aside htakers hnot fun other =>
      Stage.ready.inj ((hready store).symm.trans (hready other))⟩

/-- Nobody has the lock when it is taken, so all who took it before have written. -/
theorem take (h : Consistent service requests store s written) {id : ResourceId}
    {update : TokenUpdate} (hstage : s.stage i = .waiting id update) (hfree : s.holder = none) :
    Consistent service requests store
      { s.put i (.holding id update) with holder := some i, takers := s.takers ++ [i] }
      written := by
  obtain ⟨-, hout, haction⟩ := h.fits_of hstage
  have htakers := h.free hfree
  refine ⟨List.concat_eq_append ▸ h.nodup.concat hout, nofun, h.contents,
    fits_put ⟨rfl, by rw [htakers], haction⟩ fun j hj => ?_⟩
  have hbefore : s.holder ≠ some j := by simp [hfree]
  have hafter : some i ≠ some j := by simpa using Ne.symm hj
  rw [← List.append_nil written]
  refine (h.fits j).aside hbefore hafter fun hin => ?_
  simpa [hj] using hin

theorem write (h : Consistent service requests store s written) {id : ResourceId}
    {update : TokenUpdate} {seen : Store} (hstage : s.stage i = .updating id update seen) :
    Consistent service requests store
      { s.put i (.settled (service.outcome id (seen.update id update.fcmToken))) with
        store := (seen.update id update.fcmToken).toOption.getD s.store }
      (written ++ [i]) := by
  obtain ⟨hholder, htakers, haction, rfl⟩ := h.fits_of hstage
  have hanswer : service.outcome id (s.store.update id update.fcmToken) =
      answerOn service requests (storeAfter requests store written) i := by
    rw [answerOn, service.respond_of_update _ _ haction, h.contents]
  refine ⟨h.nodup, fun _ => htakers, ?_,
    fits_put ⟨hholder, htakers, .wrote rfl hanswer⟩ fun j hj => ?_⟩
  · rw [storeAfter_concat, ← h.contents, Request.applied, haction]
  · have hother : s.holder ≠ some j := by simpa [hholder] using Ne.symm hj
    exact (h.fits j).aside hother hother fun hin => hin

theorem release (h : Consistent service requests store s written)
    (hstage : s.stage i = .settled answer) :
    Consistent service requests store { s.put i (.ready answer) with holder := none } written := by
  obtain ⟨hholder, htakers, hexplained⟩ := h.fits_of hstage
  refine ⟨h.nodup, fun _ => htakers, h.contents, fits_put ⟨nofun, hexplained⟩ fun j hj => ?_⟩
  have hother : s.holder ≠ some j := by simpa [hholder] using Ne.symm hj
  rw [← List.append_nil written]
  exact (h.fits j).aside hother nofun fun hin => hin

theorem advance (h : Consistent service requests store s written)
    (hmove : s.advance? service requests i = some s') :
    ∃ written', Consistent service requests store s' written' := by
  unfold advance? at hmove
  cases hstage : s.stage i with
  | arrived =>
    rw [hstage] at hmove
    cases hmove
    exact ⟨_, h.check hstage⟩
  | waiting id update =>
    rw [hstage] at hmove
    obtain ⟨hfree, hmoved⟩ := Option.ite_none_right_eq_some.mp hmove
    cases hmoved
    exact ⟨_, h.take hstage hfree⟩
  | holding id update =>
    rw [hstage] at hmove
    cases hmove
    obtain ⟨hholder, htakers, haction⟩ := h.fits_of hstage
    exact ⟨_, h.put ⟨hholder, htakers, haction, rfl⟩⟩
  | updating id update seen =>
    rw [hstage] at hmove
    cases hmove
    exact ⟨_, h.write hstage⟩
  | settled answer =>
    rw [hstage] at hmove
    cases hmove
    exact ⟨_, h.release hstage⟩
  | ready answer =>
    rw [hstage] at hmove
    cases hmove
    obtain ⟨hholder, hexplained⟩ := h.fits_of hstage
    exact ⟨_, h.put ⟨hholder, hexplained⟩⟩
  | answered answer =>
    rw [hstage] at hmove
    cases hmove

theorem follow (h : Consistent service requests store s written) {schedule : List (Fin n)}
    (hfollow : s.follow? service requests schedule = some s') :
    ∃ written', Consistent service requests store s' written' := by
  induction schedule generalizing s written with
  | nil =>
    cases hfollow
    exact ⟨written, h⟩
  | cons i schedule ih =>
    obtain ⟨next, hmove, hrest⟩ := Option.bind_eq_some_iff.mp hfollow
    obtain ⟨written', hnext⟩ := h.advance hmove
    exact ih hnext hrest

/-- Some request can move until all have their answers: who holds the lock never waits for it. -/
theorem exists_advance (h : Consistent service requests store s written) (hopen : ¬s.Finished) :
    ∃ i s', s.advance? service requests i = some s' := by
  by_contra hstuck
  have hnone : ∀ i, s.advance? service requests i = none := fun i =>
    Option.eq_none_iff_forall_not_mem.mpr fun s' hs' => hstuck ⟨i, s', hs'⟩
  have hwait : ∀ i, s.holder ≠ some i ∧ (s.holder = none → (s.stage i).remaining = 0) := by
    intro i
    have hmove := hnone i
    have hfits := h.fits i
    unfold advance? at hmove
    cases hstage : s.stage i with
    | waiting id update =>
      rw [hstage] at hmove hfits
      exact ⟨hfits.1, fun hfree => by simp [hfree] at hmove⟩
    | answered answer =>
      rw [hstage] at hfits
      exact ⟨hfits.1, fun _ => rfl⟩
    | _ =>
      rw [hstage] at hmove
      cases hmove
  have hfree : s.holder = none := Option.eq_none_iff_forall_not_mem.mpr fun i => (hwait i).1
  exact hopen fun i => (hwait i).2 hfree

end Consistent

theorem stage_advance (hmove : s.advance? service requests i = some s') :
    (s'.stage i).remaining < (s.stage i).remaining ∧ ∀ j, j ≠ i → s'.stage j = s.stage j := by
  unfold advance? at hmove
  cases hstage : s.stage i with
  | waiting id update =>
    rw [hstage] at hmove
    obtain ⟨-, hmoved⟩ := Option.ite_none_right_eq_some.mp hmove
    cases hmoved
    exact ⟨by simp [Stage.remaining], fun j hj => put_stage_of_ne s hj _⟩
  | arrived =>
    rw [hstage] at hmove
    cases hmove
    refine ⟨?_, fun j hj => put_stage_of_ne s hj _⟩
    rw [put_stage_self]
    exact service.checked_remaining (requests i).1 (requests i).2
  | answered answer =>
    rw [hstage] at hmove
    cases hmove
  | _ =>
    rw [hstage] at hmove
    cases hmove
    exact ⟨by simp [Stage.remaining], fun j hj => put_stage_of_ne s hj _⟩

theorem remaining_advance (hmove : s.advance? service requests i = some s') :
    ∑ j, (s'.stage j).remaining < ∑ j, (s.stage j).remaining := by
  obtain ⟨hfewer, hothers⟩ := stage_advance hmove
  refine Finset.sum_lt_sum (fun j _ => ?_) ⟨i, Finset.mem_univ i, hfewer⟩
  by_cases hj : j = i
  · rw [hj]
    exact hfewer.le
  · rw [hothers j hj]

theorem length_follow {schedule : List (Fin n)}
    (hfollow : s.follow? service requests schedule = some s') :
    schedule.length + ∑ j, (s'.stage j).remaining ≤ ∑ j, (s.stage j).remaining := by
  induction schedule generalizing s with
  | nil =>
    cases hfollow
    simp
  | cons i schedule ih =>
    obtain ⟨next, hmove, hrest⟩ := Option.bind_eq_some_iff.mp hfollow
    have hless := remaining_advance hmove
    have hmore := ih hrest
    rw [List.length_cons]
    omega

end Invariant

end Flight

end Gatehouse
