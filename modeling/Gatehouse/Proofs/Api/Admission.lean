import Gatehouse.Proofs.Api.Route
import Gatehouse.Proofs.Http.Headers
import Gatehouse.Proofs.Http.MediaType

/-! Which requests are admitted, and with what. The user is the second segment of the path, decoded
once; the token is the one that the body reads as. -/

namespace Gatehouse

theorem Pipeline.uuid_run (s : String) : Pipeline.uuid.run s = validateUuid s := by
  cases h : Uuid.Rule.standard.accepts s <;>
    simp [Pipeline.run, Pipeline.check, Pipeline.pass, Pipeline.uuid, Pipeline.push, Pipeline.empty,
      Gate.passAll, Gate.uuid, Gate.refuseIf, Gate.ofObjection, Gate.pass, validateUuid, h, bind,
      Except.bind, pure, Except.pure]

namespace Http.Request

def userId? (request : Request) : Option ResourceId :=
  (Text.Percent.decodeText? (String.ofList (request.path.segment 1))).map ResourceId.mk

def token? (request : Request) : Option String :=
  (TokenUpdate.reader.decode request.body).toOption.map TokenUpdate.fcmToken

def declaresJson (request : Request) : Bool :=
  (request.headers.get? "content-type").all fun value => MediaType.parse? value == some .json

def declaresFit (request : Request) : Bool :=
  request.contentLength?.any fun length => decide (length ≤ Api.maxBodyBytes)

variable {request : Request}

theorem declaresFit_iff : request.declaresFit = true ↔
    ∃ length, request.contentLength? = some length ∧ length ≤ Api.maxBodyBytes := by
  rw [declaresFit, Option.any_eq_true]
  simp only [decide_eq_true_eq]

theorem declaresFit_iff_declares : request.declaresFit = true ↔
    ∃ length, request.headers.Declares length ∧ length ≤ 16384 := by
  rw [declaresFit_iff]
  constructor
  · rintro ⟨length, hlength, hfits⟩
    exact ⟨length, (contentLength?_eq_some_iff.mp hlength).1, hfits⟩
  · rintro ⟨length, hdeclares, hfits⟩
    have hbound : length < UInt64.size := Nat.lt_of_le_of_lt hfits (by decide)
    exact ⟨length, contentLength?_eq_some_iff.mpr ⟨hdeclares, hbound⟩, hfits⟩

theorem declaresJson_iff : request.declaresJson = true ↔
    ∀ value, request.headers.get? "content-type" = some value → MediaType.IsJson value := by
  simp only [declaresJson, Option.all_eq_true, beq_iff_eq, MediaType.parse?_eq_json_iff]

end Http.Request

namespace Api

open Http

/-- What the update route demands before it asks the store. -/
structure Admits (request : Request) (id : ResourceId) (token : String) : Prop where
  method : request.method = "PATCH"
  users : request.path.segment 0 = "users".toList
  user : request.userId? = some id
  accepted : Uuid.Rule.standard.accepts id.text = true
  fcmToken : request.path.segment 2 = "fcm-token".toList
  ends : request.path.endsAfter 3
  fits : request.declaresFit = true
  typed : request.declaresJson = true
  body : request.token? = some token

structure Addresses (request : Request) (id : ResourceId) : Prop where
  method : request.method = "PATCH"
  users : request.path.segment 0 = "users".toList
  user : request.userId? = some id
  accepted : Uuid.Rule.standard.accepts id.text = true
  fcmToken : request.path.segment 2 = "fcm-token".toList
  ends : request.path.endsAfter 3

theorem Addresses.admits {request : Request} {id : ResourceId} (h : Addresses request id)
    (hfits : request.declaresFit = true) (htyped : request.declaresJson = true) {token : String}
    (hbody : request.token? = some token) :
    Admits request id token :=
  ⟨h.method, h.users, h.user, h.accepted, h.fcmToken, h.ends, hfits, htyped, hbody⟩

theorem bind_eq_ok_iff {ε α β : Type} {x : Except ε α} {f : α → Except ε β} {b : β} :
    x >>= f = .ok b ↔ ∃ a, x = .ok a ∧ f a = .ok b := by
  cases x with
  | error e =>
    constructor
    · intro h
      cases h
    · rintro ⟨a, ha, -⟩
      cases ha
  | ok a =>
    constructor
    · intro h
      exact ⟨a, rfl, h⟩
    · rintro ⟨a', ha, hf⟩
      cases ha
      exact hf

theorem require_eq_ok_iff {demand : Prop} [Decidable demand] {rejection : Rejection} {u : Unit} :
    require demand rejection = .ok u ↔ demand := by
  by_cases h : demand
  · rw [require_of h, eq_true h, eq_self_iff_true]
  · rw [require_of_not h]
    simp [h]

theorem methodIs_eq_ok_iff {name : String} {request : Request} {u : Unit} :
    methodIs name request = .ok u ↔ request.method = name := by
  rw [methodIs_eq, require_eq_ok_iff]

theorem accept_uuid (segment : String) :
    Param.accept .uuid segment =
      match Text.Percent.decodeText? segment with
      | none => .error ⟨"UUID", segment⟩
      | some value =>
        if Uuid.Rule.standard.accepts value then .ok ⟨value⟩ else .error ⟨"UUID", value⟩ := by
  rw [Param.accept, Param.decode]
  cases Text.Percent.decodeText? segment with
  | none => rfl
  | some value =>
    change (do return ResourceId.mk (← Pipeline.uuid.run value)) = _
    rw [Pipeline.uuid_run, validateUuid]
    by_cases h : Uuid.Rule.standard.accepts value = true
    · simp only [if_pos h]
      rfl
    · simp only [if_neg h]
      rfl

theorem userOf_eq_ok_iff {request : Request} {id : ResourceId} :
    userOf (request.path.segment 1) = .ok id ↔
      request.userId? = some id ∧ Uuid.Rule.standard.accepts id.text = true := by
  rw [userOf, accept_uuid, Request.userId?]
  cases Text.Percent.decodeText? (String.ofList (request.path.segment 1)) with
  | none => simp
  | some value =>
    by_cases haccept : Uuid.Rule.standard.accepts value = true
    · simp only [if_pos haccept, Option.map_some, Option.some.injEq, Except.ok.injEq]
      constructor
      · rintro rfl
        exact ⟨rfl, haccept⟩
      · exact And.left
    · simp only [if_neg haccept, Option.map_some, Option.some.injEq, reduceCtorEq, false_iff]
      rintro ⟨rfl, haccepted⟩
      exact haccept haccepted

theorem checkLength_eq_ok_iff {request : Request} {u : Unit} :
    checkLength request = .ok u ↔ request.declaresFit = true := by
  unfold checkLength Request.declaresFit
  cases request.contentLength? with
  | none => simp
  | some length => by_cases h : length ≤ maxBodyBytes <;> simp [h]

theorem checkType_eq_ok_iff {request : Request} {u : Unit} :
    checkType request = .ok u ↔ request.declaresJson = true := by
  unfold checkType Request.declaresJson
  cases request.headers.get? "content-type" with
  | none => simp
  | some value => by_cases h : MediaType.parse? value = some .json <;> simp [h]

theorem readBody_eq_ok_iff {request : Request} {update : TokenUpdate} :
    readBody request = .ok update ↔ request.token? = some update.fcmToken := by
  unfold readBody Request.token?
  cases TokenUpdate.reader.decode request.body with
  | error error => simp [Except.toOption]
  | ok read =>
    obtain ⟨token⟩ := read
    obtain ⟨other⟩ := update
    simp [Except.toOption]

theorem segment_ne_nil_of_accepted {request : Request} {id : ResourceId}
    (huser : request.userId? = some id) (haccept : Uuid.Rule.standard.accepts id.text = true) :
    request.path.segment 1 ≠ [] := by
  intro hnil
  have hempty : Text.Percent.decodeText? (String.ofList []) = some "" := by rfl
  rw [Request.userId?, hnil, hempty] at huser
  cases huser
  exact absurd haccept (by decide)

theorem updateAction_eq_ok_iff {request : Request} {action : Action} :
    updateAction request = .ok action ↔
      ∃ id token, action = .update id ⟨token⟩ ∧ Admits request id token := by
  rw [updateAction_eq]
  simp only [bind_eq_ok_iff, methodIs_eq_ok_iff, require_eq_ok_iff, userOf_eq_ok_iff,
    checkLength_eq_ok_iff, checkType_eq_ok_iff, readBody_eq_ok_iff]
  constructor
  · rintro ⟨_, hmethod, _, husers, _, -, id, ⟨huser, haccept⟩, _, hfcm, _, hends, _, hfits, _,
      htyped, ⟨token⟩, hbody, haction⟩
    cases haction
    exact ⟨id, token, rfl, hmethod, husers, huser, haccept, hfcm, hends, hfits, htyped, hbody⟩
  · rintro ⟨id, token, rfl, h⟩
    exact ⟨(), h.method, (), h.users, (), segment_ne_nil_of_accepted h.user h.accepted, id,
      ⟨h.user, h.accepted⟩, (), h.fcmToken, (), h.ends, (), h.fits, (), h.typed, ⟨token⟩, h.body,
      rfl⟩

theorem healthAction_eq_ok_iff {request : Request} {action : Action} :
    healthAction request = .ok action ↔
      action = .health ∧ isHealth request.path ∧ request.method = "GET" := by
  rw [healthAction_eq]
  simp only [bind_eq_ok_iff, methodIs_eq_ok_iff, require_eq_ok_iff]
  constructor
  · rintro ⟨_, hpath, _, hmethod, haction⟩
    cases haction
    exact ⟨rfl, hpath, hmethod⟩
  · rintro ⟨rfl, hpath, hmethod⟩
    exact ⟨(), hpath, (), hmethod, rfl⟩

theorem action_eq_update_iff {request : Request} {id : ResourceId} {token : String} :
    action request = .ok (.update id ⟨token⟩) ↔ Admits request id token := by
  rw [action]
  cases hhealth : healthAction request with
  | ok found =>
    obtain ⟨rfl, hpath, hmethod⟩ := healthAction_eq_ok_iff.mp hhealth
    constructor
    · intro h
      cases h
    · -- The first segment cannot be that of both routes.
      intro h
      exact absurd (hpath.1.symm.trans h.users) (by decide)
  | error first =>
    constructor
    · intro h
      cases hupdate : updateAction request with
      | error second =>
        rw [hupdate] at h
        cases h
      | ok found =>
        rw [hupdate] at h
        cases h
        obtain ⟨id', token', hsame, hadmits⟩ := updateAction_eq_ok_iff.mp hupdate
        cases hsame
        exact hadmits
    · intro h
      rw [updateAction_eq_ok_iff.mpr ⟨id, token, rfl, h⟩]

end Api

end Gatehouse
