import Gatehouse.Proofs.Api.Respond

/-! The status of every answer, where rejections are turned into JSON. The health path is decided by
the method alone; on every other path an ordered list of checks decides, and the first that fails
names the status. -/

namespace Gatehouse

open Http

def Http.Request.namesUser (request : Request) : Bool :=
  request.userId?.any fun id => Uuid.Rule.standard.accepts id.text

namespace Api

/-- The checks of the update route, each with the status that reports its failure. -/
def routeChecks (request : Request) : List (Bool × Status) :=
  [(decide (request.method = "PATCH"), .methodNotAllowed),
    (decide (request.path.segment 0 = "users".toList), .notFound),
    (decide (request.path.segment 1 ≠ []), .notFound),
    (request.namesUser, .badRequest),
    (decide (request.path.segment 2 = "fcm-token".toList), .notFound),
    (decide (request.path.endsAfter 3), .notFound),
    (request.contentLength?.isSome, .lengthRequired),
    (request.contentLength?.all fun length => decide (length ≤ maxBodyBytes), .payloadTooLarge),
    (request.declaresJson, .unsupportedMediaType),
    (request.token?.isSome, .badRequest)]

def storeCheck (store : Store) (request : Request) : Bool × Status :=
  (request.token?.all fun token => decide (token ∉ store.refused), .internalServerError)

def firstFailure? (checks : List (Bool × Status)) : Option Status :=
  (checks.find? fun check => !check.1).map Prod.snd

def verdict (store : Store) (request : Request) : Status :=
  if request.path = "health".toList ∨ request.path = "health/".toList then
    if request.method = "GET" then .ok else .methodNotAllowed
  else (firstFailure? (routeChecks request ++ [storeCheck store request])).getD .noContent

-- What the two checks of the declared length ask for; `declaresJson_iff` tells that of the type.
section Length

variable {request : Request}

theorem isSome_contentLength?_iff : request.contentLength?.isSome = true ↔
    ∃ length, request.headers.Declares length ∧ length < UInt64.size := by
  simp only [Option.isSome_iff_exists, Request.contentLength?_eq_some_iff]

theorem all_contentLength?_iff :
    (request.contentLength?.all fun length => decide (length ≤ maxBodyBytes)) = true ↔
      ∀ length, request.headers.Declares length → length < UInt64.size → length ≤ 16384 := by
  simp only [Option.all_eq_true, Request.contentLength?_eq_some_iff, decide_eq_true_eq, and_imp]
  rfl

end Length

theorem firstFailure?_cons_true (status : Status) (checks : List (Bool × Status)) :
    firstFailure? ((true, status) :: checks) = firstFailure? checks := rfl

theorem firstFailure?_cons_false (status : Status) (checks : List (Bool × Status)) :
    firstFailure? ((false, status) :: checks) = some status := rfl

theorem firstFailure?_cons (demand : Prop) [Decidable demand] (status : Status)
    (checks : List (Bool × Status)) : firstFailure? ((decide demand, status) :: checks) =
      if demand then firstFailure? checks else some status := by
  by_cases h : demand
  · rw [decide_eq_true h, firstFailure?_cons_true, if_pos h]
  · rw [decide_eq_false h, firstFailure?_cons_false, if_neg h]

theorem firstFailure?_append (checks more : List (Bool × Status)) :
    firstFailure? (checks ++ more) = (firstFailure? checks).or (firstFailure? more) := by
  rw [firstFailure?, List.find?_append, firstFailure?, firstFailure?]
  cases checks.find? fun check => !check.1 <;> rfl

/-- An attempt fails with the status of the first check that fails, and not at all if none does. -/
structure Follows (checks : List (Bool × Status)) (attempt : Except Rejection Action) : Prop where
  ok : ∀ action, attempt = .ok action → firstFailure? checks = none
  error : ∀ rejection, attempt = .error rejection →
    firstFailure? checks = some (Service.refuse true rejection).1.status

theorem Follows.of_ok (action : Action) : Follows [] (.ok action) where
  ok _ _ := rfl
  error _ h := by cases h

theorem Follows.of_error (rejection : Rejection) {status : Status}
    (h : (Service.refuse true rejection).1.status = status) (checks : List (Bool × Status)) :
    Follows ((false, status) :: checks) (.error rejection) where
  ok _ h := by cases h
  error _ hsame := by
    cases hsame
    rw [firstFailure?_cons_false, h]

theorem Follows.cons_true {checks : List (Bool × Status)} {attempt : Except Rejection Action}
    (h : Follows checks attempt) (status : Status) :
    Follows ((true, status) :: checks) attempt where
  ok := h.ok
  error := h.error

theorem Follows.require {demand : Prop} [Decidable demand] {check : Bool} {rejection : Rejection}
    {status : Status} {checks : List (Bool × Status)} {attempt : Except Rejection Action}
    (hcheck : check = true ↔ demand)
    (hstatus : (Service.refuse true rejection).1.status = status)
    (hrest : Follows checks attempt) :
    Follows ((check, status) :: checks) (do Api.require demand rejection; attempt) := by
  cases check with
  | true =>
    rw [require_of (hcheck.mp rfl)]
    exact hrest.cons_true status
  | false =>
    rw [require_of_not fun h => Bool.noConfusion (hcheck.mpr h)]
    exact .of_error rejection hstatus checks

theorem Follows.userOf {request : Request} {checks : List (Bool × Status)}
    {attempt : ResourceId → Except Rejection Action} (hrest : ∀ id, Follows checks (attempt id)) :
    Follows ((request.namesUser, .badRequest) :: checks)
      (do attempt (← Api.userOf (request.path.segment 1))) := by
  rw [Api.userOf, accept_uuid, Request.namesUser, Request.userId?]
  cases Text.Percent.decodeText? (String.ofList (request.path.segment 1)) with
  | none => exact .of_error (.of (.api (.malformed _))) rfl checks
  | some value =>
    by_cases haccept : Uuid.Rule.standard.accepts value = true
    · simp only [Option.map_some, Option.any_some, haccept]
      exact (hrest ⟨value⟩).cons_true .badRequest
    · simp only [Option.map_some, Option.any_some, haccept]
      exact .of_error (.of (.api (.malformed _))) rfl checks

theorem Follows.checkLength {request : Request} {checks : List (Bool × Status)}
    {attempt : Except Rejection Action} (hrest : Follows checks attempt) :
    Follows ((request.contentLength?.isSome, .lengthRequired) ::
      (request.contentLength?.all fun length => decide (length ≤ maxBodyBytes), .payloadTooLarge) ::
      checks) (do Api.checkLength request; attempt) := by
  unfold Api.checkLength
  cases request.contentLength? with
  | none => exact .of_error (.of .lengthRequired) rfl _
  | some length =>
    by_cases h : length ≤ maxBodyBytes
    · simp only [if_pos h, Option.isSome_some, Option.all_some, decide_eq_true h]
      exact (hrest.cons_true .payloadTooLarge).cons_true .lengthRequired
    · simp only [if_neg h, Option.isSome_some, Option.all_some, decide_eq_false h]
      exact (Follows.of_error (.of .payloadTooLarge) rfl checks).cons_true .lengthRequired

theorem Follows.checkType {request : Request} {checks : List (Bool × Status)}
    {attempt : Except Rejection Action} (hrest : Follows checks attempt) :
    Follows ((request.declaresJson, .unsupportedMediaType) :: checks)
      (do Api.checkType request; attempt) := by
  unfold Api.checkType Request.declaresJson
  cases request.headers.get? "content-type" with
  | none => exact hrest.cons_true .unsupportedMediaType
  | some value =>
    by_cases h : MediaType.parse? value = some .json
    · simp only [if_pos h, Option.all_some, beq_iff_eq.mpr h]
      exact hrest.cons_true .unsupportedMediaType
    · simp only [if_neg h, Option.all_some, beq_eq_false_iff_ne.mpr h]
      exact .of_error (.of .unsupportedMediaType) rfl checks

theorem Follows.readBody (request : Request) (id : ResourceId) :
    Follows [(request.token?.isSome, .badRequest)]
      (do return .update id (← Api.readBody request)) := by
  unfold Api.readBody Request.token?
  cases TokenUpdate.reader.decode request.body with
  | error error => exact .of_error (.of (.unreadableBody error)) rfl []
  | ok update => exact (Follows.of_ok _).cons_true .badRequest

theorem updateAction_follows (request : Request) :
    Follows (routeChecks request) (updateAction request) := by
  rw [updateAction_eq, routeChecks, methodIs_eq]
  refine Follows.require (@decide_eq_true_iff _ _) rfl ?_
  refine Follows.require (@decide_eq_true_iff _ _) rfl ?_
  refine Follows.require (@decide_eq_true_iff _ _) rfl ?_
  refine Follows.userOf fun id => ?_
  refine Follows.require (@decide_eq_true_iff _ _) rfl ?_
  refine Follows.require (@decide_eq_true_iff _ _) rfl ?_
  refine Follows.checkLength (Follows.checkType ?_)
  exact Follows.readBody request id

theorem isHealth_iff (path : Path) :
    isHealth path ↔ path = "health".toList ∨ path = "health/".toList := by
  constructor
  · rintro ⟨hname, hends⟩
    rcases path.eq_first_or_append with h | ⟨first, rest, hfirst, rfl⟩
    · rw [Path.segment_zero, Path.next_of_not_mem h] at hname
      exact .inl hname
    · rw [Path.segment_zero, Path.next_append hfirst] at hname
      rw [Path.endsAfter_succ, Path.next_append hfirst, Path.endsAfter_zero] at hends
      right
      exact congrArg₂ (fun name rest => name ++ '/' :: rest) hname hends
  · rintro (rfl | rfl) <;> decide

/-- Beside a wrong method on the health path, the update route never decides. -/
theorem action_of_health {request : Request} (h : isHealth request.path) :
    if request.method = "GET" then action request = .ok .health
    else ∃ rejection, action request = .error rejection ∧
      (Service.refuse true rejection).1.status = .methodNotAllowed := by
  have husers : request.path.segment 0 ≠ "users".toList := by
    rw [h.1]
    decide
  rw [action, healthAction_eq, require_of h]
  by_cases hget : request.method = "GET"
  · rw [if_pos hget, methodIs, if_pos hget]
    rfl
  · -- The update route refuses the path, or first the method; beside either, 405 remains.
    rw [if_neg hget, methodIs, if_neg hget, updateAction_eq, require_of_not husers, methodIs]
    by_cases hpatch : request.method = "PATCH"
    · rw [if_pos hpatch]
      exact ⟨_, rfl, rfl⟩
    · rw [if_neg hpatch]
      exact ⟨_, rfl, rfl⟩

theorem firstFailure?_of_admits {store : Store} {request : Request} {id : ResourceId}
    {token : String} (h : Admits request id token) :
    firstFailure? (routeChecks request ++ [storeCheck store request]) =
      if token ∈ store.refused then some .internalServerError else none := by
  -- An admitted request has passed every check but that of the store.
  have hroute : firstFailure? (routeChecks request) = none :=
    (updateAction_follows request).ok _ (updateAction_eq_ok_iff.mpr ⟨id, token, rfl, h⟩)
  rw [firstFailure?_append, hroute, Option.none_or, storeCheck, h.body, Option.all_some]
  by_cases hrefused : token ∈ store.refused
  · rw [decide_eq_false (not_not_intro hrefused), firstFailure?_cons_false, if_pos hrefused]
  · rw [decide_eq_true hrefused, firstFailure?_cons_true, if_neg hrefused]
    rfl

end Api

namespace Service

theorem status_of_not_health (settings : Settings) (now : Calendar.UtcTime) (store : Store)
    {request : Request} (h : ¬Api.isHealth request.path) :
    (respond ⟨settings, true⟩ now store request).reply.status =
      (Api.firstFailure? (Api.routeChecks request ++ [Api.storeCheck store request])).getD
        .noContent := by
  have hfollows := Api.updateAction_follows request
  have haction := Api.action_of_not_health h
  cases hupdate : Api.updateAction request with
  | error rejection =>
    rw [respond_of_rejected _ now (haction.trans hupdate), Api.firstFailure?_append,
      hfollows.error rejection hupdate]
    rfl
  | ok action =>
    obtain ⟨id, token, -, hadmits⟩ := Api.updateAction_eq_ok_iff.mp hupdate
    rw [Api.firstFailure?_of_admits hadmits]
    by_cases hrefused : token ∈ store.refused
    · rw [respond_of_refused _ now hadmits hrefused, if_pos hrefused]
      rfl
    · rw [respond_of_admits _ now hadmits hrefused, if_neg hrefused]
      rfl

theorem status_of_health (settings : Settings) (now : Calendar.UtcTime) (store : Store)
    {request : Request} (h : Api.isHealth request.path) :
    (respond ⟨settings, true⟩ now store request).reply.status =
      if request.method = "GET" then .ok else .methodNotAllowed := by
  have haction := Api.action_of_health h
  by_cases hget : request.method = "GET"
  · rw [if_pos hget] at haction
    rw [respond_of_health _ now haction, if_pos hget]
    rfl
  · rw [if_neg hget] at haction
    obtain ⟨rejection, hrejected, hstatus⟩ := haction
    rw [respond_of_rejected _ now hrejected, if_neg hget]
    exact hstatus

/-- The status of every answer. The path is that of the target, and where the target opens with a
slash it is what follows, up to a query or a fragment. -/
theorem respond_status (settings : Settings) (now : Calendar.UtcTime) (store : Store)
    (request : Request) :
    (respond ⟨settings, true⟩ now store request).reply.status = Api.verdict store request ∧
      request.path = Path.ofRequestTarget request.target ∧
      ∀ rest, Path.ofRequestTarget (String.ofList ('/' :: rest)) =
        rest.takeWhile fun c => c != '?' && c != '#' := by
  refine ⟨?_, rfl, fun rest => ?_⟩
  · rw [Api.verdict]
    by_cases hhealth : Api.isHealth request.path
    · rw [if_pos ((Api.isHealth_iff request.path).mp hhealth)]
      exact status_of_health settings now store hhealth
    · rw [if_neg fun h => hhealth ((Api.isHealth_iff request.path).mpr h)]
      exact status_of_not_health settings now store hhealth
  · rw [Path.ofRequestTarget_slash]
    simp [Path.isQueryMark, Bool.not_or, bne]

/-- A declared length that does not fit 64 bits counts as none, and a structured suffix does not
change a media type. -/
theorem respond_status_odd_headers :
    let long : Request := ⟨"PATCH", "/users/550e8400-e29b-41d4-a716-446655440000/fcm-token",
      [("content-length", "18446744073709551616")], []⟩
    let suffixed : Request := ⟨"PATCH", "/users/550e8400-e29b-41d4-a716-446655440000/fcm-token",
      [("content-length", "16"), ("content-type", "application/json+xml")],
      Text.Utf8.encode "\x7b\"fcmToken\":\"t\"\x7d"⟩
    let status := fun request =>
      (respond ⟨⟨.standard, .standard⟩, true⟩ .epoch .permissive request).reply.status
    Text.Decimal.parse? "18446744073709551616".toList = some 18446744073709551616 ∧
      Api.maxBodyBytes < 18446744073709551616 ∧ status long ≠ .payloadTooLarge ∧
      status long = .lengthRequired ∧
      suffixed.headers.get? "content-type" ≠ some "application/json" ∧
      status suffixed ≠ .unsupportedMediaType ∧ status suffixed = .noContent := by
  decide +kernel

end Service

end Gatehouse
