import Gatehouse.Proofs.Api.Answer

/-! Neither the token that a request brings nor the text of a failing store gets out. The token
decides no more than whether the store takes it, and the failure is told to the log alone. -/

namespace Gatehouse

open Http

def Log.Event.concealed : Log.Event → Log.Event
  | .storeFailed _ => .storeFailed "<failure>"
  | event => event

/-- What is seen of an exchange from outside: its answer and its events, apart from the time and
the words of the store. -/
def Exchange.shown (exchange : Exchange) : Reply × List Log.Event :=
  (exchange.reply.masked, exchange.events.map Log.Event.concealed)

def Api.Action.withoutToken : Api.Action → Api.Action
  | .health => .health
  | .update id _ => .update id ⟨"<token>"⟩

/-- Requests that differ in no more than the token of a readable body and the length that goes with
it. -/
structure Http.Request.SameButToken (refused : TokenSet) (a b : Request) : Prop where
  method : a.method = b.method
  target : a.target = b.target
  headers : ∀ name, Headers.sameName name "content-length" = false →
    a.headers.get? name = b.headers.get? name
  declared : a.contentLength? = some a.body.length ∧ b.contentLength? = some b.body.length
  fits : a.body.length ≤ Api.maxBodyBytes ∧ b.body.length ≤ Api.maxBodyBytes
  tokens : ∃ t u, a.token? = some t ∧ b.token? = some u ∧ (t ∈ refused ↔ u ∈ refused)

theorem Http.Headers.get?_declared_length {a b : String} (name : String)
    (h : sameName name "content-length" = false) :
    get? [("content-length", a)] name = get? [("content-length", b)] name := by
  have hother : sameName "content-length" name = false := by
    rw [← h, sameName, sameName, Bool.beq_comm]
  simp [get?, hother]

namespace Api

variable {refused : TokenSet} {a b : Request}

theorem checkLength_of_fits {request : Request} {length : Nat}
    (h : request.contentLength? = some length) (hfits : length ≤ maxBodyBytes) :
    checkLength request = .ok () := by
  rw [checkLength_eq_ok_iff, Request.declaresFit, h, Option.any_some, decide_eq_true hfits]

theorem updateAction_withoutToken (h : a.SameButToken refused b) :
    Action.withoutToken <$> updateAction a = Action.withoutToken <$> updateAction b := by
  obtain ⟨t, u, ha, hb, -⟩ := h.tokens
  have hreadA : readBody a = .ok ⟨t⟩ := readBody_eq_ok_iff.mpr ha
  have hreadB : readBody b = .ok ⟨u⟩ := readBody_eq_ok_iff.mpr hb
  have hpath : a.path = b.path := by rw [Request.path, Request.path, h.target]
  rw [updateAction_eq, updateAction_eq, methodIs_eq, methodIs_eq, h.method, hpath,
    checkLength_of_fits h.declared.1 h.fits.1, checkLength_of_fits h.declared.2 h.fits.2,
    checkType_congr (h.headers "content-type" (by decide)), hreadA, hreadB]
  simp only [map_bind]
  rfl

theorem action_withoutToken (h : a.SameButToken refused b) :
    Action.withoutToken <$> action a = Action.withoutToken <$> action b := by
  have hupdate := updateAction_withoutToken h
  have hpath : isHealth a.path ↔ isHealth b.path := by
    rw [Request.path, Request.path, h.target]
  rw [action, action, healthAction_congr h.method hpath]
  cases healthAction b with
  | ok action => rfl
  | error first =>
    cases ha : updateAction a <;> cases hb : updateAction b <;> rw [ha, hb] at hupdate
    · cases hupdate
      rfl
    · cases hupdate
    · cases hupdate
    · exact hupdate

theorem withoutToken_eq_health {action : Action} (h : action.withoutToken = .health) :
    action = .health := by
  cases action with
  | health => rfl
  | update id update => cases h

theorem withoutToken_eq_update {action : Action} {id : ResourceId} {update : TokenUpdate}
    (h : action.withoutToken = (Action.update id update).withoutToken) :
    ∃ token, action = .update id ⟨token⟩ := by
  cases action with
  | health => cases h
  | update other update =>
    cases h
    exact ⟨update.fcmToken, rfl⟩

end Api

namespace Http.Request

structure AsksAlike (refused : TokenSet) (a b : Request) : Prop where
  action : Api.Action.withoutToken <$> Api.action a = Api.Action.withoutToken <$> Api.action b
  refusals : ∀ t u, a.token? = some t → b.token? = some u → (t ∈ refused ↔ u ∈ refused)

theorem AsksAlike.refl (refused : TokenSet) (request : Request) :
    AsksAlike refused request request where
  action := rfl
  refusals t u ht hu := by rw [Option.some.inj (ht.symm.trans hu)]

theorem SameButToken.asksAlike {refused : TokenSet} {a b : Request}
    (h : a.SameButToken refused b) : AsksAlike refused a b where
  action := Api.action_withoutToken h
  refusals t u ht hu := by
    obtain ⟨t', u', ht', hu', hiff⟩ := h.tokens
    rwa [Option.some.inj (ht.symm.trans ht'), Option.some.inj (hu.symm.trans hu')]

end Http.Request

namespace Service

variable (settings : Settings) {refused : TokenSet} {a b : Request} {first second : Store}

theorem shown_respond (hfirst : first.refused = refused) (hsecond : second.refused = refused)
    (h : a.AsksAlike refused b) (now later : Calendar.UtcTime) :
    (respond ⟨settings, true⟩ now first a).shown =
      (respond ⟨settings, true⟩ later second b).shown := by
  have haction := h.action
  cases hb : Api.action b with
  | error rejection =>
    rw [hb] at haction
    cases ha : Api.action a with
    | ok action =>
      rw [ha] at haction
      cases haction
    | error other =>
      rw [ha] at haction
      cases haction
      rw [respond_of_rejected _ now ha, respond_of_rejected _ later hb, Exchange.shown,
        Exchange.shown]
  | ok action =>
    rw [hb] at haction
    cases ha : Api.action a with
    | error other =>
      rw [ha] at haction
      cases haction
    | ok other =>
      rw [ha] at haction
      have hsame : other.withoutToken = action.withoutToken := Except.ok.inj haction
      cases action with
      | health =>
        rw [Api.withoutToken_eq_health hsame] at ha
        rw [respond_of_health _ now ha, respond_of_health _ later hb, Exchange.shown,
          Exchange.shown, healthReply_masked, healthReply_masked]
      | update id update =>
        obtain ⟨token, rfl⟩ := Api.withoutToken_eq_update hsame
        have hadmitsA := Api.action_eq_update_iff.mp ha
        have hadmitsB := Api.action_eq_update_iff.mp hb
        have hiff := h.refusals _ _ hadmitsA.body hadmitsB.body
        by_cases htoken : token ∈ refused
        · rw [respond_of_refused _ now hadmitsA (hfirst ▸ htoken),
            respond_of_refused _ later hadmitsB (hsecond ▸ hiff.mp htoken),
            refuse_store_failure, refuse_store_failure]
          rfl
        · have hother : update.fcmToken ∉ refused := fun h => htoken (hiff.mpr h)
          rw [respond_of_admits _ now hadmitsA (hfirst ▸ htoken),
            respond_of_admits _ later hadmitsB (hsecond ▸ hother)]
          rfl

/-- Runs over requests that differ in tokens alone, on stores that refuse the same tokens in words
of their own, show the same. -/
theorem run_hides_tokens (hfirst : first.refused = refused) (hsecond : second.refused = refused)
    {requests others : List (Calendar.UtcTime × Request)}
    (h : List.Forall₂ (fun a b => a.2 = b.2 ∨ a.2.SameButToken refused b.2) requests others) :
    (run ⟨settings, true⟩ first requests).map Exchange.shown =
      (run ⟨settings, true⟩ second others).map Exchange.shown := by
  induction h generalizing first second with
  | nil => rfl
  | @cons a b requests others hsame _ ih =>
    obtain ⟨now, a⟩ := a
    obtain ⟨later, b⟩ := b
    have halike : a.AsksAlike refused b := by
      rcases hsame with rfl | hsame
      · exact .refl refused a
      · exact hsame.asksAlike
    have hfirst' : (respond ⟨settings, true⟩ now first a).store.refused = refused := by
      rw [respond_store, Request.applied_refused, hfirst]
    have hsecond' : (respond ⟨settings, true⟩ later second b).store.refused = refused := by
      rw [respond_store, Request.applied_refused, hsecond]
    rw [run, run, List.map_cons, List.map_cons, shown_respond settings hfirst hsecond halike,
      ih hfirst' hsecond']

theorem run_hides_tokens_of_other_length :
    let register := fun token length : String => Request.mk "PATCH"
      "/users/550e8400-e29b-41d4-a716-446655440000/fcm-token" [("content-length", length)]
      (Text.Utf8.encode ("\x7b\"fcmToken\":\"" ++ token ++ "\"\x7d"))
    let shown := fun (failure : String) (requests : List Request) =>
      (run ⟨⟨.standard, .standard⟩, true⟩ (.empty ["bad", "worse"] failure)
        (requests.map fun request => (.epoch, request))).map Exchange.shown
    shown "disk full" [register "short" "20", ⟨"GET", "/health", [], []⟩, register "bad" "18"] =
      shown "timed out"
        [register "longer" "21", ⟨"GET", "/health", [], []⟩, register "worse" "20"] := by
  intro register shown
  have htaken : (register "short" "20").SameButToken ["bad", "worse"] (register "longer" "21") :=
    ⟨rfl, rfl, Headers.get?_declared_length, by decide +kernel, by decide +kernel,
      "short", "longer", by decide +kernel, by decide +kernel, by decide⟩
  have hrefused : (register "bad" "18").SameButToken ["bad", "worse"] (register "worse" "20") :=
    ⟨rfl, rfl, Headers.get?_declared_length, by decide +kernel, by decide +kernel,
      "bad", "worse", by decide +kernel, by decide +kernel, by decide⟩
  have hempty : ∀ failure, (Store.empty ["bad", "worse"] failure).refused = ["bad", "worse"] :=
    fun _ => rfl
  exact run_hides_tokens ⟨.standard, .standard⟩ (hempty "disk full") (hempty "timed out")
    (.cons (.inr htaken) (.cons (.inl rfl) (.cons (.inr hrefused) .nil)))

end Service

end Gatehouse
