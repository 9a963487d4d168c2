import Gatehouse.Proofs.Api.TokenFidelity

/-! The limit on bodies. It is held against the declared length alone, so it binds those senders who
declare at least what they send; a body that was declared shorter than the limit is read in full. -/

namespace Gatehouse

open Http Json.Grammar

namespace TokenUpdate

def plainBody (token : String) : Bytes :=
  word "\x7b\"fcmToken\":\"".toList ++ (Text.Utf8.encode token ++ word "\"\x7d".toList)

theorem plainBody_object {token : String} (h : Unescaped token) :
    Object [("fcmToken", byte '"' :: (Text.Utf8.encode token ++ [byte '"']))]
      (plainBody token) := by
  have hvalue := quotes_encode h
  have hname : Quotes "fcmToken" _ := quotes_encode (by decide)
  have hmembers : Members [("fcmToken", byte '"' :: (Text.Utf8.encode token ++ [byte '"']))] _ :=
    .last hname ⟨[], [], .nil, .nil, rfl⟩ (.text hvalue.quoted)
  have hletters : Text.Utf8.encode "fcmToken" = word "fcmToken".toList := by decide +kernel
  refine ⟨_, _, .inr hmembers, ⟨[], [], .nil, .nil, rfl⟩, [], [], .nil, .nil, ?_⟩
  simp [plainBody, word, hletters]

theorem lt_length_plainBody {token : String} {n : Nat} (h : n ≤ (Text.Utf8.encode token).length) :
    n < (plainBody token).length := by
  simp only [plainBody, word, List.length_append, List.length_map]
  have hbefore : 0 < "\x7b\"fcmToken\":\"".toList.length := by decide
  omega

end TokenUpdate

namespace Service

/-- What becomes of a body over the limit: it is taken in exactly where all checks pass, for which
its sender has to declare less than is sent; in every other case the store stays as it is. -/
theorem respond_oversized (service : Service) (now : Calendar.UtcTime) (store : Store)
    (request : Request) (h : Api.maxBodyBytes < request.body.length) :
    let exchange := service.respond now store request
    (exchange.reply.status = .noContent ↔
      ∃ length id token, request.contentLength? = some length ∧ length ≤ Api.maxBodyBytes ∧
        length < request.body.length ∧ Api.Admits request id token ∧ token ∉ store.refused) ∧
    (exchange.reply.status ≠ .noContent → exchange.store = store) ∧
    (request.contentLength? = none ∨ request.contentLength? = some request.body.length →
      exchange.reply.status ≠ .noContent ∧ exchange.store = store) := by
  intro exchange
  have hcases := service.respond_cases now store request
  have hunchanged : exchange.reply.status ≠ .noContent → exchange.store = store := by
    intro hstatus
    rcases hcases with ⟨_, _, -, -, hnoContent, -⟩ | ⟨-, hstore⟩
    · exact absurd hnoContent hstatus
    · exact hstore
  have hexact : exchange.reply.status = .noContent ↔
      ∃ length id token, request.contentLength? = some length ∧ length ≤ Api.maxBodyBytes ∧
        length < request.body.length ∧ Api.Admits request id token ∧ token ∉ store.refused := by
    constructor
    · intro hstatus
      rcases hcases with ⟨id, token, hadmits, hfree, -, -⟩ | ⟨hother, -⟩
      · obtain ⟨length, hdeclared, hfits⟩ := Request.declaresFit_iff.mp hadmits.fits
        exact ⟨length, id, token, hdeclared, hfits, by omega, hadmits, hfree⟩
      · exact absurd hstatus hother
    · rintro ⟨_, id, token, -, -, -, hadmits, hfree⟩
      rw [show exchange = _ from service.respond_of_admits now hadmits hfree]
  refine ⟨hexact, hunchanged, fun hdeclared => ?_⟩
  -- A true length is over the limit itself, so it cannot be the one that passed the check.
  have hstatus : exchange.reply.status ≠ .noContent := by
    intro hnoContent
    obtain ⟨length, _, _, hlength, -, hless, -, -⟩ := hexact.mp hnoContent
    rcases hdeclared with hnone | htrue
    · rw [hnone] at hlength
      cases hlength
    · rw [htrue] at hlength
      cases hlength
      omega
  exact ⟨hstatus, hunchanged hstatus⟩

theorem respond_oversized_understated :
    let token := String.ofList (List.replicate Api.maxBodyBytes 'a')
    let request : Request := ⟨"PATCH",
      "/users/" ++ "550e8400-e29b-41d4-a716-446655440000" ++ "/fcm-token",
      [("content-length", "5")], TokenUpdate.plainBody token⟩
    Api.maxBodyBytes < request.body.length ∧
      (respond ⟨⟨.standard, .standard⟩, true⟩ .epoch .permissive request).reply.status =
        .noContent := by
  intro token request
  -- The body is too long to be evaluated; its length follows from that of the token.
  have hlength : Api.maxBodyBytes < request.body.length := by
    have hencode := Text.Utf8.length_le_encode token
    rw [String.toList_ofList, List.length_replicate] at hencode
    exact TokenUpdate.lt_length_plainBody hencode
  have hplain : Unescaped token := by
    intro c hc
    rw [String.toList_ofList] at hc
    rw [List.eq_of_mem_replicate hc]
    decide
  have hadmits : Api.Admits request ⟨"550e8400-e29b-41d4-a716-446655440000"⟩ token :=
    Api.admits_update [] [] (by decide) (by decide) (by decide +kernel) (quotes_encode hplain)
      (TokenUpdate.plainBody_object hplain) (List.forall_mem_nil _)
      ⟨5, Headers.declares_of_values rfl, by decide⟩ (.inl rfl)
  have hrespond :=
    respond_oversized ⟨⟨.standard, .standard⟩, true⟩ .epoch .permissive request hlength
  refine ⟨hlength, hrespond.1.mpr ⟨5, _, _, rfl, by decide, ?_, hadmits, by decide⟩⟩
  exact Nat.lt_trans (by decide) hlength

end Service

end Gatehouse
