import Gatehouse.Proofs.Claims

/-! The types of the wire read back what they write. A field that is left out where it has no value
is missing to the reader, a role is written as its name, and an integer in full. -/

namespace Gatehouse

open Json Json.Grammar Json.Reader Text.Utf8

/-- Reading undoes writing; so what is written tells the value apart, and whatever was accepted is
written in one way. -/
structure Json.RoundTrips {α : Type} (reader : Reader α) (toJson : α → Value) : Prop where
  reads : ∀ a, reader.decode (encode (toJson a).render) = .ok a
  injective : ∀ a b, (toJson a).render = (toJson b).render → a = b
  stable : ∀ bytes a, reader.decode bytes = .ok a →
    ∃ again, reader.decode (encode (toJson a).render) = .ok again ∧ again = a ∧
      encode (toJson again).render = encode (toJson a).render

theorem Json.RoundTrips.of_reads {α : Type} {reader : Reader α} {toJson : α → Value}
    (h : ∀ a, reader.decode (encode (toJson a).render) = .ok a) : RoundTrips reader toJson where
  reads := h
  injective a b heq := by
    have hread := h a
    rw [heq, h b] at hread
    exact (Except.ok.inj hread).symm
  stable _ a _ := ⟨a, h a, rfl, rfl⟩

theorem ResourceId.decode_render (id : ResourceId) :
    reader.decode (encode id.toJson.render) = .ok id :=
  ((accepts_string (Value.quotes_quote id.text)).map ResourceId.mk).decode

theorem Role.decode_render (role : Role) : reader.decode (encode role.toJson.render) = .ok role :=
  (AccessClaims.recognises_role.accepts (.text (Value.quotes_quote role.wireName))).decode

theorem TokenUpdate.decode_render (update : TokenUpdate) :
    reader.decode (encode update.toJson.render) = .ok update := by
  have htold : Told update [Value.written ("fcmToken", .text update.fcmToken)] :=
    ⟨_, valuesOf_cons_self, Value.quotes_render update.fcmToken⟩
  exact (decode_eq_ok_iff (Value.object_render [("fcmToken", .text update.fcmToken)])).mpr htold

theorem RefreshClaims.decode_render (claims : RefreshClaims) :
    reader.decode (encode claims.toJson.render) = .ok claims := by
  have htold : Told claims (claims.members.map Value.written) := by
    simp only [members, List.map_cons, List.map_nil, Value.written]
    exact ⟨⟨_, by simp, Value.quotes_render claims.sub⟩,
      ⟨_, by simp, Value.quotes_render claims.tokenId⟩⟩
  exact (decode_eq_ok_iff (Value.object_render claims.members)).mpr htold

theorem AccessClaims.told_members (claims : AccessClaims) :
    Told claims (claims.members.map Value.written) := by
  obtain ⟨sub, email, phoneNumber, role, iat, exp⟩ := claims
  have hrole : Variant role.wireName (encode role.toJson.render) :=
    .text (Value.quotes_render role.wireName)
  cases email with
  | none =>
    simp only [members, Value.optional, Option.map_none, List.map_cons, List.map_nil,
      Value.written, List.cons_append, List.nil_append]
    exact ⟨⟨_, by simp, Value.quotes_render sub⟩, .inl ⟨by simp, rfl⟩,
      ⟨_, by simp, Value.quotes_render phoneNumber⟩, ⟨_, by simp, hrole⟩,
      ⟨_, by simp, Value.integer_render iat.toInt⟩, ⟨_, by simp, Value.integer_render exp.toInt⟩⟩
  | some email =>
    simp only [members, Value.optional, Option.map_some, List.map_cons, List.map_nil,
      Value.written, List.cons_append, List.nil_append]
    exact ⟨⟨_, by simp, Value.quotes_render sub⟩, .inr ⟨_, by simp, Value.quotes_render email⟩,
      ⟨_, by simp, Value.quotes_render phoneNumber⟩, ⟨_, by simp, hrole⟩,
      ⟨_, by simp, Value.integer_render iat.toInt⟩, ⟨_, by simp, Value.integer_render exp.toInt⟩⟩

theorem AccessClaims.decode_render (claims : AccessClaims) :
    reader.decode (encode claims.toJson.render) = .ok claims :=
  (decode_eq_ok_iff (Value.object_render claims.members)).mpr claims.told_members

/-- Every type of the wire reads back what it writes. -/
theorem wire_roundTrips :
    RoundTrips AccessClaims.reader AccessClaims.toJson ∧
      RoundTrips RefreshClaims.reader RefreshClaims.toJson ∧
      RoundTrips Role.reader Role.toJson ∧
      RoundTrips TokenUpdate.reader TokenUpdate.toJson ∧
      RoundTrips ResourceId.reader ResourceId.toJson :=
  ⟨.of_reads AccessClaims.decode_render, .of_reads RefreshClaims.decode_render,
    .of_reads Role.decode_render, .of_reads TokenUpdate.decode_render,
    .of_reads ResourceId.decode_render⟩

end Gatehouse
