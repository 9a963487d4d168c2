import Gatehouse.Proofs.Api.Respond
import Gatehouse.Proofs.Json.Record
import Gatehouse.Proofs.Text.Decimal

/-! What a well-formed update does: the store holds exactly the token that the body spells for
exactly the user that the path spells, whichever spellings the sender chose. -/

namespace Gatehouse

open Http Json.Grammar

namespace TokenUpdate

open Json Json.Reader

theorem field?_of_ne {name : String} (h : name ≠ "fcmToken") : record.field? name = none := by
  rw [Record.field?, record, List.find?_cons_of_neg (by simpa using h.symm), List.find?_nil]

theorem takes_token {token : String} {value : Bytes} (h : Quotes token value) :
    Record.Takes record ⟨none⟩ ("fcmToken", value) ⟨some token⟩ :=
  .field rfl rfl ((accepts_string h).map fun s => (⟨some s⟩ : Draft))

theorem decode_object {before after : List Member} {value body : Bytes} {token : String}
    (hbody : Object (before ++ ("fcmToken", value) :: after) body)
    (hothers : ∀ member ∈ before ++ after, member.1 ≠ "fcmToken") (hvalue : Quotes token value) :
    reader.decode body = .ok ⟨token⟩ := by
  have hunknown {members : List Member} (hsub : members ⊆ before ++ after) (draft : Draft) :
      Record.TakesAll record draft members draft :=
    .unknown (fun member hmember => field?_of_ne (hothers member (hsub hmember))) draft
  have htakes : Record.TakesAll record record.blank (before ++ ("fcmToken", value) :: after)
      ⟨some token⟩ :=
    (hunknown (List.subset_append_left before after) _).append
      (.cons (takes_token hvalue) (hunknown (List.subset_append_right before after) _))
  exact Record.decode_object hbody htakes rfl

end TokenUpdate

namespace Http.Path

theorem segments_update {segment : String} (h : IsSegment segment) :
    (ofRequestTarget ("/users/" ++ segment ++ "/fcm-token")).segments =
      ["users".toList, segment.toList, "fcm-token".toList] := by
  have htarget : "/users/" ++ segment ++ "/fcm-token" =
      String.ofList
        ('/' :: ("users".toList ++ '/' :: (segment.toList ++ '/' :: "fcm-token".toList))) := by
    rw [← String.toList_inj]
    simp
  have hunmarked {s : String} (hs : IsSegment s) : ∀ c ∈ s.toList, (!isQueryMark c) = true := by
    intro c hc
    rw [(hs c hc).2]
    rfl
  have hmarks : ∀ c ∈ "users".toList ++ '/' :: (segment.toList ++ '/' :: "fcm-token".toList),
      (!isQueryMark c) = true := by
    simp only [List.forall_mem_append, List.forall_mem_cons]
    exact ⟨hunmarked (by decide), rfl, hunmarked h, rfl, hunmarked (by decide)⟩
  have hslash : '/' ∉ segment.toList := fun hmem => (h '/' hmem).1 rfl
  rw [htarget, ofRequestTarget_slash, List.takeWhile_eq_self_iff.mpr hmarks,
    segments_append (by decide), segments_append hslash, segments_of_not_mem (by decide)]

end Http.Path

namespace Api

theorem addresses_update {user segment : String} (haccept : Uuid.Rule.standard.accepts user = true)
    (hsegment : Path.IsSegment segment) (hdecode : Text.Percent.decodeText? segment = some user)
    (headers : Headers) (body : Bytes) :
    Addresses ⟨"PATCH", "/users/" ++ segment ++ "/fcm-token", headers, body⟩ ⟨user⟩ := by
  have hsegments := Path.segments_update hsegment
  refine ⟨rfl, ?_, ?_, haccept, ?_, ?_⟩
  · rw [Http.Path.segment, Request.path, hsegments]
    rfl
  · rw [Request.userId?, Http.Path.segment, Request.path, hsegments, List.getD_cons_succ,
      List.getD_cons_zero, String.ofList_toList, hdecode]
    rfl
  · rw [Http.Path.segment, Request.path, hsegments]
    rfl
  · left
    rw [Request.path, hsegments]
    rfl

theorem admits_update {user segment token : String} (before after : List Member)
    {value body : Bytes} {headers : Headers} (haccept : Uuid.Rule.standard.accepts user = true)
    (hsegment : Path.IsSegment segment) (hdecode : Text.Percent.decodeText? segment = some user)
    (hvalue : Quotes token value) (hbody : Object (before ++ ("fcmToken", value) :: after) body)
    (hothers : ∀ member ∈ before ++ after, member.1 ≠ "fcmToken")
    (hlength : ∃ length, headers.Declares length ∧ length ≤ maxBodyBytes)
    (htype : headers.get? "content-type" = none ∨
      headers.get? "content-type" = some "application/json") :
    Admits ⟨"PATCH", "/users/" ++ segment ++ "/fcm-token", headers, body⟩ ⟨user⟩ token := by
  refine (addresses_update haccept hsegment hdecode headers body).admits ?_ ?_ ?_
  · exact Request.declaresFit_iff_declares.mpr hlength
  · refine Request.declaresJson_iff.mpr fun value hvalue => ?_
    obtain hnone | hjson := htype
    · cases hnone.symm.trans hvalue
    · cases hjson.symm.trans hvalue
      exact MediaType.parse?_eq_json_iff.mp (by decide)
  · rw [Request.token?, TokenUpdate.decode_object hbody hothers hvalue]
    rfl

end Api

namespace Service

end Service

end Gatehouse
