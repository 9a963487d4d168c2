import Gatehouse.Proofs.Api.TokenFidelity
import Gatehouse.Proofs.Claims

/-! The bodies that bring a token, told from what is taken in. Apart from objects that name the
token these are lists of one text, and stray bytes inside of what is passed by are not noticed. -/

namespace Gatehouse

open Http Json Json.Grammar Text.Utf8

namespace TokenUpdate

open Json.Reader

def Names (token : String) (bytes : Bytes) : Prop :=
  ∃ before value after, Object (before ++ ("fcmToken", value) :: after) bytes ∧
    Quotes token value ∧ ∀ member ∈ before ++ after, member.1 ≠ "fcmToken"

def Lists (token : String) (bytes : Bytes) : Prop :=
  ∃ quoted inside, Quotes token quoted ∧ Padded quoted inside ∧
    Padded (byte '[' :: (inside ++ [byte ']'])) bytes

theorem list_sound {update : TokenUpdate} {s rest : Bytes}
    (h : Reads (closedBy record.list closeList) s update rest) :
    ∃ quoted inside, Quotes update.fcmToken quoted ∧ Padded quoted inside ∧
      s = inside ++ byte ']' :: rest := by
  obtain ⟨middle, hlist, hclose⟩ := closedBy_sound h
  obtain ⟨behind, hbehind, rfl⟩ := closeList_sound hclose
  obtain ⟨draft, _, helements, hfinish⟩ := hlist.of_bind
  obtain ⟨answer, _, hnext, hmore⟩ := Reads.of_bind (x := nextElement? true) helements
  obtain ⟨front, hfront, rfl⟩ := nextElement?_sound hnext
  cases answer with
  | false => exact absurd hmore (Reads.not_of_fault rfl)
  | true =>
    obtain ⟨_, _, hread, hend⟩ := Reads.of_bind hmore
    obtain ⟨rfl, rfl⟩ := hend.of_pure
    obtain ⟨token, hstring, rfl⟩ := Reads.of_map hread
    obtain ⟨blanks, quoted, hblanks, hquotes, rfl⟩ := string_sound hstring
    obtain ⟨rfl, rfl⟩ := Reads.of_pure hfinish
    exact ⟨quoted, _, hquotes, ⟨front ++ blanks, behind,
      List.forall_mem_append.mpr ⟨hfront, hblanks⟩, hbehind, rfl⟩, by simp⟩

theorem draft_of_finish {draft : Draft} {token : String}
    (h : record.finish draft = .ok ⟨token⟩) : draft = ⟨some token⟩ := by
  obtain ⟨_ | other⟩ := draft
  · cases h
  · cases h
    rfl

theorem exists_of_takesAll {token : String} {members : List Member}
    (hvalues : ∀ member ∈ members, Derives .value member.2)
    (h : Record.TakesAll record ⟨none⟩ members ⟨some token⟩) :
    ∃ before value after, members = before ++ ("fcmToken", value) :: after ∧ Quotes token value ∧
      ∀ member ∈ before ++ after, member.1 ≠ "fcmToken" := by
  have hfills := layout.fills_of_takesAll hvalues h _ List.mem_cons_self
  obtain ⟨value, hvalue, hquotes⟩ := Record.Fills.empty_iff.mp hfills
  obtain ⟨before, after, hmembers, hothers⟩ := exists_of_valuesOf hvalue
  exact ⟨before, value, after, hmembers, hquotes, hothers⟩

/-- What reads as a token names it, once it is mended, or lists it. -/
theorem decode_sound {token : String} {bytes : Bytes} (h : reader.decode bytes = .ok ⟨token⟩) :
    Names token (mended bytes) ∨ Lists token bytes := by
  obtain ⟨members, draft, hobject, htakes, hfinish⟩ | ⟨before, after, tail, hbefore, hafter, rfl,
    hlist⟩ := Record.decode_sound layout.field_sound h
  · obtain ⟨listed, inside, hlisted, hmore⟩ := hobject
    obtain rfl := draft_of_finish hfinish
    have hvalues : ∀ member ∈ members, Derives .value member.2 := by
      rcases hlisted with ⟨rfl, -⟩ | hmembers
      · exact List.forall_mem_nil _
      · exact hmembers.derives
    obtain ⟨first, value, last, rfl, hquotes, hothers⟩ := exists_of_takesAll hvalues htakes
    exact .inl ⟨first, value, last, ⟨listed, inside, hlisted, hmore⟩, hquotes, hothers⟩
  · obtain ⟨quoted, inside, hquotes, hpadded, rfl⟩ := list_sound hlist
    exact .inr ⟨quoted, inside, hquotes, hpadded, before, after, hbefore, hafter, by simp⟩

theorem decode_list {token : String} {bytes : Bytes} (h : Lists token bytes) :
    reader.decode bytes = .ok ⟨token⟩ := by
  obtain ⟨quoted, inside, hquotes, ⟨front, behind, hfront, hbehind, rfl⟩, before, after, hbefore,
    hafter, rfl⟩ := h
  obtain ⟨tail, rfl, -⟩ := reads_text hquotes
  simp only [List.cons_append, List.append_assoc, List.nil_append]
  refine decode_of_reads hafter (reads_settle ?_)
  refine (reads_peekSolid?_mark hbefore (by decide) _).bind ((reads_advance _ _).bind ?_)
  refine reads_closedBy ?_ (reads_closeList hbehind after)
  have hfield := (reads_string Blanks.nil hquotes (behind ++ byte ']' :: after)).map
    fun s => (⟨some s⟩ : Draft)
  have helements : Reads (record.elements 0 record.fields record.blank)
      (front ++ byte '"' :: (tail ++ (behind ++ byte ']' :: after))) ⟨some token⟩
      (behind ++ byte ']' :: after) :=
    (reads_nextElement? hfront (by decide) (by decide) _).bind (hfield.bind (.pure _ _))
  exact helements.bind (.pure _ _)

theorem Lists.not_object {token : String} {bytes : Bytes} (h : Lists token bytes)
    (members : List Member) : ¬Object members bytes := by
  rintro ⟨_, _, -, -, before, after, hbefore, -, hobject⟩
  obtain ⟨_, _, -, -, front, behind, hfront, -, hlist⟩ := h
  have hbrace : Reads peekSolid? bytes (some '\x7b') _ :=
    hobject ▸ reads_peekSolid?_mark hbefore (by decide) _
  have hbracket : Reads peekSolid? bytes (some '[') _ :=
    hlist ▸ reads_peekSolid?_mark hfront (by decide) _
  cases hbrace.symm.trans hbracket

end TokenUpdate

theorem Http.Request.token?_eq_some {request : Request} {token : String} :
    request.token? = some token ↔ TokenUpdate.reader.decode request.body = .ok ⟨token⟩ := by
  rw [Request.token?]
  cases TokenUpdate.reader.decode request.body with
  | error error => simp [Except.toOption]
  | ok update =>
    obtain ⟨other⟩ := update
    simp [Except.toOption]

namespace Api

variable {request : Request} {id : ResourceId}

theorem Addresses.eq (h : Addresses request id) {other : ResourceId} {token : String}
    (hadmits : Admits request other token) : other = id :=
  Option.some.inj (hadmits.user.symm.trans h.user)

theorem updateAction_of_addresses (h : Addresses request id) :
    updateAction request = do
      checkLength request
      checkType request
      return .update id (← readBody request) := by
  have huser := userOf_eq_ok_iff.mpr ⟨h.user, h.accepted⟩
  rw [updateAction_eq, methodIs_eq, require_of h.method, require_of h.users,
    require_of (segment_ne_nil_of_accepted h.user h.accepted), huser, require_of h.fcmToken,
    require_of h.ends]
  rfl

theorem action_of_addresses (h : Addresses request id) : action request = updateAction request :=
  action_of_not_health fun hpath => absurd (hpath.1.symm.trans h.users) (by decide)

theorem clientError_of_addresses (h : Addresses request id) (hbody : request.token? = none)
    (recovers : Bool) :
    ∃ rejection, action request = .error rejection ∧
      400 ≤ (Service.refuse recovers rejection).1.status.code ∧
      (Service.refuse recovers rejection).1.status.code < 500 := by
  rw [action_of_addresses h, updateAction_of_addresses h]
  have hread : ∃ error, readBody request = .error (.of (.unreadableBody error)) := by
    rw [readBody]
    rw [Request.token?] at hbody
    cases hdecode : TokenUpdate.reader.decode request.body with
    | ok update =>
      rw [hdecode] at hbody
      cases hbody
    | error error => exact ⟨error, rfl⟩
  obtain ⟨error, hread⟩ := hread
  have hbad : 400 ≤ Status.badRequest.code ∧ Status.badRequest.code < 500 := by decide
  rw [hread, checkLength, checkType]
  cases request.contentLength? with
  | none => exact ⟨_, rfl, by cases recovers <;> decide⟩
  | some length =>
    by_cases hfits : length ≤ maxBodyBytes
    · simp only [if_pos hfits]
      cases request.headers.get? "content-type" with
      | none => exact ⟨_, rfl, by cases recovers <;> exact hbad⟩
      | some value =>
        dsimp only
        split
        · exact ⟨_, rfl, by cases recovers <;> exact hbad⟩
        · exact ⟨_, rfl, by cases recovers <;> decide⟩
    · simp only [if_neg hfits]
      exact ⟨_, rfl, by cases recovers <;> decide⟩

end Api

namespace Service

/-- An update brings a token in one of two forms: an object that names it, which may hold stray
bytes where it is not read, or a list of it alone. Every other body is answered with the sender's
fault and changes nothing. -/
theorem respond_token_forms (service : Service) (now : Calendar.UtcTime) (store : Store)
    {request : Request} {id : ResourceId} (h : Api.Addresses request id) :
    let exchange := service.respond now store request
    (exchange.reply.status = .noContent →
      ∃ token, exchange.store = store.holding id token ∧
        (TokenUpdate.Names token (mended request.body) ∨ TokenUpdate.Lists token request.body)) ∧
    ((∀ token, ¬TokenUpdate.Names token (mended request.body) ∧
        ¬TokenUpdate.Lists token request.body) →
      400 ≤ exchange.reply.status.code ∧ exchange.reply.status.code < 500 ∧
        exchange.store = store) ∧
    (∀ token, TokenUpdate.Lists token request.body → token ∉ store.refused →
      request.declaresFit = true → request.declaresJson = true →
        exchange.reply.status = .noContent ∧ exchange.store = store.holding id token) ∧
    ∀ text, request.body = encode text → mended request.body = request.body := by
  intro exchange
  have hunread : request.token? = none → 400 ≤ exchange.reply.status.code ∧
      exchange.reply.status.code < 500 ∧ exchange.store = store := by
    intro hbody
    obtain ⟨rejection, haction, hlow, hhigh⟩ :=
      Api.clientError_of_addresses h hbody service.recovers
    have hexchange : exchange = _ := service.respond_of_rejected now haction
    rw [hexchange]
    exact ⟨hlow, hhigh, rfl⟩
  refine ⟨fun hstatus => ?_, fun hforms => ?_, fun token hlist hfree hfits htyped => ?_,
    fun text htext => ?_⟩
  · obtain ⟨other, token, hadmits, -, -, hstore⟩ | ⟨hother, -⟩ :=
      service.respond_cases now store request
    · obtain rfl := h.eq hadmits
      exact ⟨token, hstore, TokenUpdate.decode_sound (Request.token?_eq_some.mp hadmits.body)⟩
    · exact absurd hstatus hother
  · cases htoken : request.token? with
    | none => exact hunread htoken
    | some token =>
      have hform := TokenUpdate.decode_sound (Request.token?_eq_some.mp htoken)
      exact absurd hform (not_or.mpr (hforms token))
  · have hbody := Request.token?_eq_some.mpr (TokenUpdate.decode_list hlist)
    have hexchange : exchange = _ :=
      service.respond_of_admits now (h.admits hfits htyped hbody) hfree
    rw [hexchange]
    exact ⟨rfl, rfl⟩
  · rw [htext, mended_encode]

theorem respond_token_forms_accepted :
    let request (body : Bytes) : Request := ⟨"PATCH",
      "/users/" ++ "550e8400-e29b-41d4-a716-446655440000" ++ "/fcm-token",
      [("content-length", toString body.length)], body⟩
    let respond (body : Bytes) :=
      respond ⟨⟨.standard, .standard⟩, true⟩ .epoch .permissive (request body)
    let id : ResourceId := ⟨"550e8400-e29b-41d4-a716-446655440000"⟩
    let list := word "[\"t\"]".toList
    let stray := word "\x7b\"a\":\"".toList ++ 0xff :: word "\",\"fcmToken\":\"t\"\x7d".toList
    (∀ body, Api.Addresses (request body) id) ∧
      (respond list).reply.status = .noContent ∧ (∀ members, ¬Object members list) ∧
      (respond stray).reply.status = .noContent ∧ decode? stray = none ∧
      ∃ token, (respond stray).store = Store.permissive.holding id token ∧
        (TokenUpdate.Names token (mended stray) ∨ TokenUpdate.Lists token stray) := by
  intro request respond id list stray
  have haddresses (body : Bytes) : Api.Addresses (request body) id :=
    Api.addresses_update (by decide) (by decide) (by decide +kernel) _ body
  have hforms (body : Bytes) :=
    respond_token_forms ⟨⟨.standard, .standard⟩, true⟩ .epoch .permissive (haddresses body)
  have hlist : TokenUpdate.Lists "t" list :=
    ⟨word "\"t\"".toList, _, quotes_encode (by decide), ⟨[], [], .nil, .nil, rfl⟩, [], [],
      .nil, .nil, by decide +kernel⟩
  have hstray : (respond stray).reply.status = .noContent := by decide +kernel
  exact ⟨haddresses, ((hforms list).2.2.1 "t" hlist (by decide) (by decide +kernel) (by decide)).1,
    hlist.not_object, hstray, by decide +kernel, (hforms stray).1 hstray⟩

end Service

end Gatehouse
