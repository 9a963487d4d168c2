import Gatehouse.Proofs.Api.Answer
import Gatehouse.Proofs.Api.Refusal
import Gatehouse.Proofs.Http.Target
import Gatehouse.Proofs.Text.Mended
import Gatehouse.Proofs.Uuid
import Mathlib.Logic.Relation

/-! Ways to write one target. A request is answered by what its target denotes: queries, a slash at
the end of the path and the escapes of a user do not matter, and an escape stands for a character
of a user alone, never for a separator or for a letter of a fixed segment. -/

namespace Gatehouse

open Http

theorem Text.Percent.eq_nil_of_decode {bytes : Bytes} (h : decode bytes = []) : bytes = [] := by
  unfold decode at h
  split at h
  · split at h <;> cases h
  · cases h
  · rfl

namespace Http

/-- One target written in another way: with another query or fragment, with a slash behind the
path, or with other escapes in the segment that names a user. -/
inductive Respells : List Char → List Char → Prop where
  | tail {path tail more : List Char} (hpath : Path.Unmarked path) (htail : Path.IsTail tail)
    (hmore : Path.IsTail more) : Respells (path ++ tail) (path ++ more)
  | slash {path : List Char} (hpath : Path.Unmarked path) (hlast : path.getLast? ≠ some '/') :
    Respells path (path ++ ['/'])
  | user {origin a b rest : List Char} {text : String} (horigin : Path.IsOrigin origin)
    (ha : '/' ∉ a ∧ Path.Unmarked a) (hb : '/' ∉ b ∧ Path.Unmarked b)
    (hrest : Path.Unmarked rest) (hends : ∀ c, rest.head? = some c → c = '/')
    (hdecodeA : Text.Percent.decodeText? (String.ofList a) = some text)
    (hdecodeB : Text.Percent.decodeText? (String.ofList b) = some text) :
    Respells (origin ++ "/users/".toList ++ a ++ rest) (origin ++ "/users/".toList ++ b ++ rest)

end Http

namespace Api

structure SameRoute (p q : Path) : Prop where
  health : isHealth p ↔ isHealth q
  users : p.segment 0 = "users".toList ↔ q.segment 0 = "users".toList
  named : p.segment 1 ≠ [] ↔ q.segment 1 ≠ []
  user : userOf (p.segment 1) = userOf (q.segment 1)
  fcmToken : p.segment 2 = "fcm-token".toList ↔ q.segment 2 = "fcm-token".toList
  ends : p.endsAfter 3 ↔ q.endsAfter 3

namespace SameRoute

variable {p q r : Path}

theorem refl (p : Path) : SameRoute p p where
  health := Iff.rfl
  users := Iff.rfl
  named := Iff.rfl
  user := rfl
  fcmToken := Iff.rfl
  ends := Iff.rfl

theorem symm (h : SameRoute p q) : SameRoute q p where
  health := h.health.symm
  users := h.users.symm
  named := h.named.symm
  user := h.user.symm
  fcmToken := h.fcmToken.symm
  ends := h.ends.symm

theorem trans (h : SameRoute p q) (hmore : SameRoute q r) : SameRoute p r where
  health := h.health.trans hmore.health
  users := h.users.trans hmore.users
  named := h.named.trans hmore.named
  user := h.user.trans hmore.user
  fcmToken := h.fcmToken.trans hmore.fcmToken
  ends := h.ends.trans hmore.ends

theorem concat {path : Path} (h : path.Open) : SameRoute path (path ++ ['/']) where
  health := by rw [isHealth, isHealth, Path.segment_concat h.2, Path.endsAfter_concat h]
  users := by rw [Path.segment_concat h.2]
  named := by rw [Path.segment_concat h.2]
  user := by rw [Path.segment_concat h.2]
  fcmToken := by rw [Path.segment_concat h.2]
  ends := (Path.endsAfter_concat h 3).symm

end SameRoute

theorem userOf_congr {a b : List Char} {text : String}
    (ha : Text.Percent.decodeText? (String.ofList a) = some text)
    (hb : Text.Percent.decodeText? (String.ofList b) = some text) : userOf a = userOf b := by
  rw [userOf, userOf, accept_uuid, accept_uuid, ha, hb]

variable {a b : Request}

theorem updateAction_congr (hmethod : a.method = b.method) (hheaders : a.headers = b.headers)
    (hbody : a.body = b.body) (hpath : SameRoute a.path b.path) :
    updateAction a = updateAction b := by
  have hlength : checkLength a = checkLength b := by
    rw [checkLength, checkLength, Request.contentLength?, Request.contentLength?, hheaders]
  have htype : checkType a = checkType b := checkType_congr (by rw [hheaders])
  have hread : readBody a = readBody b := by rw [readBody, readBody, hbody]
  rw [updateAction_eq, updateAction_eq, methodIs, methodIs, hmethod, require_congr hpath.users,
    require_congr hpath.named, hpath.user, require_congr hpath.fcmToken, require_congr hpath.ends,
    hlength, htype, hread]

theorem action_congr (hmethod : a.method = b.method) (hheaders : a.headers = b.headers)
    (hbody : a.body = b.body) (hpath : SameRoute a.path b.path) : action a = action b := by
  rw [action, action, healthAction_congr hmethod hpath.health,
    updateAction_congr hmethod hheaders hbody hpath]

theorem next_user {a rest : List Char} (ha : '/' ∉ a)
    (hends : ∀ c, rest.head? = some c → c = '/') : Path.next (a ++ rest) = (a, rest.drop 1) := by
  cases rest with
  | nil => rw [List.append_nil, Path.next_of_not_mem ha, List.drop_nil]
  | cons c rest =>
    obtain rfl := hends c rfl
    rw [Path.next_append ha, List.drop_one, List.tail_cons]

theorem read_user {origin a rest : List Char} (horigin : Path.IsOrigin origin)
    (ha : Path.Unmarked a) (hrest : Path.Unmarked rest) :
    Path.read (origin ++ "/users/".toList ++ a ++ rest) =
      "users".toList ++ '/' :: (a ++ rest) := by
  have husers : Path.Unmarked "users".toList := by decide
  have hpath : Path.Unmarked ("users".toList ++ '/' :: (a ++ rest)) := by
    refine List.forall_mem_append.mpr ⟨husers, List.forall_mem_cons.mpr ⟨rfl, ?_⟩⟩
    exact List.forall_mem_append.mpr ⟨ha, hrest⟩
  have htarget : origin ++ "/users/".toList ++ a ++ rest =
      origin ++ '/' :: ("users".toList ++ '/' :: (a ++ rest)) := by simp
  rw [htarget, Path.read_origin horigin hpath]

theorem eq_nil_iff_of_decodeText? {a : List Char} {text : String}
    (h : Text.Percent.decodeText? (String.ofList a) = some text) : a = [] ↔ text = "" := by
  constructor
  · rintro rfl
    exact (Option.some.inj h).symm
  · rintro rfl
    have hbytes := Text.Percent.eq_nil_of_decode (Text.Utf8.decode?_eq_some h)
    have hlength := Text.Utf8.length_le_encode (String.ofList a)
    rw [hbytes, String.toList_ofList] at hlength
    exact List.length_eq_zero_iff.mp (Nat.le_zero.mp hlength)

theorem sameRoute_users {x y rest : Path} {a b : List Char} (hx : x.next = (a, rest))
    (hy : y.next = (b, rest)) (hnamed : a = [] ↔ b = []) (huser : userOf a = userOf b) :
    SameRoute ("users".toList ++ '/' :: x) ("users".toList ++ '/' :: y) := by
  have husers : '/' ∉ "users".toList := by decide
  have hother : "users".toList ≠ "health".toList := by decide
  have hfirst (path : Path) := Path.segment_append_zero husers path
  have hone (path : Path) := Path.segment_append_succ husers path 0
  have htwo (path : Path) := Path.segment_append_succ husers path 1
  refine ⟨iff_of_false ?_ ?_, ?_, ?_, ?_, ?_, ?_⟩
  · exact fun h => hother ((hfirst x).symm.trans h.1)
  · exact fun h => hother ((hfirst y).symm.trans h.1)
  · rw [hfirst, hfirst]
  · rw [hone, hone, x.segment_zero, y.segment_zero, hx, hy]
    exact not_congr hnamed
  · rw [hone, hone, x.segment_zero, y.segment_zero, hx, hy]
    exact huser
  · rw [htwo, htwo, x.segment_succ, y.segment_succ, hx, hy]
  · rw [Path.endsAfter_append_succ husers, Path.endsAfter_append_succ husers,
      x.endsAfter_succ, y.endsAfter_succ, hx, hy]

theorem sameRoute_star : SameRoute ['*'] [] where
  health := by decide
  users := by decide
  named := by decide
  user := rfl
  fcmToken := by decide
  ends := by decide

theorem sameRoute_of_respells {target other : List Char} (h : Respells target other) :
    SameRoute (Path.read target) (Path.read other) := by
  cases h with
  | tail hpath htail hmore =>
    rw [Path.read_append hpath htail, Path.read_append hpath hmore]
    exact .refl _
  | slash hpath hlast =>
    obtain heq | ⟨hopen, heq⟩ | rfl := Path.read_concat hpath hlast
    · rw [heq]
      exact .refl _
    · rw [heq]
      exact .concat hopen
    · exact sameRoute_star
  | user horigin ha hb hrest hends hdecodeA hdecodeB =>
    rw [read_user horigin ha.2 hrest, read_user horigin hb.2 hrest]
    refine sameRoute_users (next_user ha.1 hends) (next_user hb.1 hends) ?_ ?_
    · rw [eq_nil_iff_of_decodeText? hdecodeA, eq_nil_iff_of_decodeText? hdecodeB]
    · exact userOf_congr hdecodeA hdecodeB

theorem sameRoute_of_eqvGen {target other : List Char}
    (h : Relation.EqvGen Respells target other) :
    SameRoute (Path.read target) (Path.read other) := by
  induction h with
  | rel _ _ h => exact sameRoute_of_respells h
  | refl _ => exact .refl _
  | symm _ _ _ ih => exact ih.symm
  | trans _ _ _ _ _ hfirst hsecond => exact hfirst.trans hsecond

theorem ne_of_escaped {cs : List Char} {name : String} (h : '%' ∈ cs) (hname : '%' ∉ name.toList) :
    cs ≠ name.toList := by
  rintro rfl
  exact hname h

theorem not_isHealth_of_escaped {path : Path} {n : Nat} (h : '%' ∈ path.segment n) :
    ¬isHealth path := by
  rintro ⟨hname, hends⟩
  cases n with
  | zero => exact ne_of_escaped h (by decide) hname
  | succ n =>
    rw [Path.segment_eq_nil_of_endsAfter hends (by omega)] at h
    cases h

theorem not_update_of_escaped {path : Path} {n : Nat} (h : '%' ∈ path.segment n)
    (hn : n = 1 → path.segment 0 ≠ "users".toList)
    (husers : path.segment 0 = "users".toList) (hfcm : path.segment 2 = "fcm-token".toList) :
    ¬path.endsAfter 3 := by
  intro hends
  match n, hn with
  | 0, _ => exact ne_of_escaped h (by decide) husers
  | 1, hn => exact hn rfl husers
  | 2, _ => exact ne_of_escaped h (by decide) hfcm
  | n + 3, _ =>
    rw [Path.segment_eq_nil_of_endsAfter hends (by omega)] at h
    cases h

def astrayStatus (request : Request) : Status :=
  if request.method ≠ "PATCH" then .methodNotAllowed
  else if request.path.segment 0 = "users".toList ∧ request.path.segment 1 ≠ [] ∧
    request.namesUser = false then .badRequest
  else .notFound

theorem firstFailure?_of_astray {request : Request}
    (h : request.path.segment 0 = "users".toList → request.path.segment 2 = "fcm-token".toList →
      ¬request.path.endsAfter 3) :
    firstFailure? (routeChecks request) = some (astrayStatus request) := by
  rw [routeChecks, astrayStatus, firstFailure?_cons]
  by_cases hmethod : request.method = "PATCH"
  swap
  · rw [if_neg hmethod, if_pos hmethod]
  rw [if_pos hmethod, if_neg (not_not_intro hmethod), firstFailure?_cons]
  by_cases husers : request.path.segment 0 = "users".toList
  swap
  · rw [if_neg husers, if_neg fun h => husers h.1]
  rw [if_pos husers, firstFailure?_cons]
  by_cases hnamed : request.path.segment 1 ≠ []
  swap
  · rw [if_neg hnamed, if_neg fun h => hnamed h.2.1]
  rw [if_pos hnamed]
  cases hnames : request.namesUser with
  | false => rw [firstFailure?_cons_false, if_pos ⟨husers, hnamed, rfl⟩]
  | true =>
    rw [firstFailure?_cons_true, if_neg fun h => Bool.noConfusion h.2.2, firstFailure?_cons]
    by_cases hfcm : request.path.segment 2 = "fcm-token".toList
    · rw [if_pos hfcm, firstFailure?_cons, if_neg (h husers hfcm)]
    · rw [if_neg hfcm]

end Api

namespace Service

variable (settings : Settings) (service : Service) (now later : Calendar.UtcTime) (store : Store)
  {a b request : Request}

theorem respond_congr (h : Api.action a = Api.action b) :
    service.respond now store a = service.respond now store b := by
  rw [respond, respond, h]

theorem answer_respelled (hmethod : a.method = b.method) (hheaders : a.headers = b.headers)
    (hbody : a.body = b.body)
    (htarget : Relation.EqvGen Respells a.target.toList b.target.toList) :
    (service.respond now store a).answer = (service.respond later store b).answer ∧
      (service.respond now store a).store = (service.respond later store b).store := by
  have hpath : Api.SameRoute a.path b.path := by
    rw [Request.path, Request.path, Path.ofRequestTarget_eq, Path.ofRequestTarget_eq]
    exact Api.sameRoute_of_eqvGen htarget
  rw [service.respond_congr now store (Api.action_congr hmethod hheaders hbody hpath)]
  refine ⟨service.answer_respond_congr b rfl rfl now later, ?_⟩
  rw [respond_store, respond_store]

theorem respond_escaped {n : Nat} (h : '%' ∈ request.path.segment n)
    (hn : n = 1 → request.path.segment 0 ≠ "users".toList) :
    (respond ⟨settings, true⟩ now store request).reply.status = Api.astrayStatus request ∧
      (respond ⟨settings, true⟩ now store request).store = store := by
  have hnot := Api.not_update_of_escaped h hn
  refine ⟨?_, ?_⟩
  · rw [status_of_not_health settings now store (Api.not_isHealth_of_escaped h),
      Api.firstFailure?_append, Api.firstFailure?_of_astray hnot]
    rfl
  · rw [respond_store, Request.applied_of_not_admits]
    exact fun id token hadmits => hnot hadmits.users hadmits.fcmToken hadmits.ends

theorem respond_escaped_slash {text : String} (hmethod : request.method = "PATCH")
    (husers : request.path.segment 0 = "users".toList)
    (hdecode : Text.Percent.decodeText? (String.ofList (request.path.segment 1)) = some text)
    (hslash : '/' ∈ text.toList) :
    respond ⟨settings, true⟩ now store request =
      ⟨.ofError .badRequest ("Invalid UUID format: " ++ text), [.malformedParameter text],
        store⟩ := by
  have hhealth : ¬Api.isHealth request.path := by
    intro hhealth
    exact absurd (husers.symm.trans hhealth.1) (by decide)
  have hnamed : request.path.segment 1 ≠ [] := by
    rw [Ne, Api.eq_nil_iff_of_decodeText? hdecode]
    rintro rfl
    cases hslash
  have hrefused : ¬Uuid.Rule.standard.accepts text = true := fun haccepts =>
    Uuid.Rule.slash_not_mem haccepts hslash
  have huser : Api.userOf (request.path.segment 1) =
      .error (.of (.api (.malformed ⟨"UUID", text⟩))) := by
    rw [Api.userOf, Api.accept_uuid, hdecode]
    simp only [if_neg hrefused]
  have haction : Api.action request = .error (.of (.api (.malformed ⟨"UUID", text⟩))) := by
    rw [Api.action_of_not_health hhealth, Api.updateAction_eq, Api.methodIs_eq,
      Api.require_of hmethod, Api.require_of husers, Api.require_of hnamed, huser]
    rfl
  rw [respond_of_rejected _ now haction, refuse_malformed, Malformed.message_uuid]

/-- Requests whose targets denote the same are answered alike, whenever they are made, and do the
same to the store. Outside the segment of a user an escape makes a path that no route knows, and
within it an escaped slash is a character of what is taken for the user. -/
theorem respond_spelling :
    (∀ (a b : Request) (now later : Calendar.UtcTime), a.method = b.method →
      a.headers = b.headers → a.body = b.body →
      Relation.EqvGen Respells a.target.toList b.target.toList →
      (respond ⟨settings, true⟩ now store a).answer =
          (respond ⟨settings, true⟩ later store b).answer ∧
        (respond ⟨settings, true⟩ now store a).store =
          (respond ⟨settings, true⟩ later store b).store) ∧
    (∀ (request : Request) (now : Calendar.UtcTime) (n : Nat), '%' ∈ request.path.segment n →
      (n = 1 → request.path.segment 0 ≠ "users".toList) →
      (respond ⟨settings, true⟩ now store request).reply.status = Api.astrayStatus request ∧
        (respond ⟨settings, true⟩ now store request).store = store) ∧
    ∀ (request : Request) (now : Calendar.UtcTime) (text : String), request.method = "PATCH" →
      request.path.segment 0 = "users".toList →
      Text.Percent.decodeText? (String.ofList (request.path.segment 1)) = some text →
      '/' ∈ text.toList →
      respond ⟨settings, true⟩ now store request =
        ⟨.ofError .badRequest ("Invalid UUID format: " ++ text), [.malformedParameter text],
          store⟩ := by
  refine ⟨fun a b now later hmethod hheaders hbody htarget => ?_,
    fun request now n h hn => respond_escaped settings now store h hn,
    fun request now text hmethod husers hdecode hslash => ?_⟩
  · exact answer_respelled _ now later store hmethod hheaders hbody htarget
  · exact respond_escaped_slash settings now store hmethod husers hdecode hslash

theorem respond_spelling_of_user :
    let update := fun target : String => Request.mk "PATCH" target [("content-length", "16")]
      (Text.Utf8.encode "\x7b\"fcmToken\":\"t\"\x7d")
    let respond := respond ⟨⟨.standard, .standard⟩, true⟩ .epoch .permissive
    let plain := update "/users/550e8400-e29b-41d4-a716-446655440000/fcm-token"
    let escaped := update "/users/550e8400-e29b-41d4-a716-44665544%30000/fcm-token/?a#b"
    let joined := update "/users/550e8400-e29b-41d4-a716-446655440000%2Ffcm-token"
    (respond plain).answer = (respond escaped).answer ∧
      (respond plain).store = (respond escaped).store ∧
      (respond joined).reply = .ofError .badRequest
        "Invalid UUID format: 550e8400-e29b-41d4-a716-446655440000/fcm-token" := by
  intro update respond plain escaped joined
  obtain ⟨hsame, -, hslash⟩ := respond_spelling ⟨.standard, .standard⟩ .permissive
  let path := [] ++ "/users/".toList ++ "550e8400-e29b-41d4-a716-44665544%30000".toList ++
    "/fcm-token".toList
  have hplain : plain.target.toList = [] ++ "/users/".toList ++
      "550e8400-e29b-41d4-a716-446655440000".toList ++ "/fcm-token".toList := by decide +kernel
  have hescaped : escaped.target.toList = path ++ ['/'] ++ "?a#b".toList := by decide +kernel
  have huser : Respells plain.target.toList path := by
    rw [hplain]
    exact .user (.inl rfl) (by decide) (by decide) (by decide) (by rintro _ ⟨rfl⟩; rfl)
      (by decide +kernel : _ = some "550e8400-e29b-41d4-a716-446655440000") (by decide +kernel)
  have hend : Respells path (path ++ ['/'] ++ []) := by
    rw [List.append_nil]
    exact .slash (by decide) (by decide)
  have hquery : Respells (path ++ ['/'] ++ []) escaped.target.toList := by
    rw [hescaped]
    exact .tail (by decide) Path.isTail_nil (by rintro _ ⟨rfl⟩; rfl)
  have htarget : Relation.EqvGen Respells plain.target.toList escaped.target.toList :=
    .trans _ _ _ (.rel _ _ huser) (.trans _ _ _ (.rel _ _ hend) (.rel _ _ hquery))
  obtain ⟨hanswer, hstore⟩ := hsame plain escaped .epoch .epoch rfl rfl rfl htarget
  refine ⟨hanswer, hstore, ?_⟩
  have hjoined := hslash joined .epoch "550e8400-e29b-41d4-a716-446655440000/fcm-token" rfl
    (by decide +kernel) (by decide +kernel) (by decide +kernel)
  have htext : "Invalid UUID format: " ++ "550e8400-e29b-41d4-a716-446655440000/fcm-token" =
      "Invalid UUID format: 550e8400-e29b-41d4-a716-446655440000/fcm-token" := by decide +kernel
  rw [show respond joined = _ from hjoined, htext]

end Service

end Gatehouse
