import Gatehouse.Claims
import Gatehouse.Device
import Gatehouse.Proofs.Json.Edit
import Mathlib.Tactic.FinCases

/-! What an object has to tell for its text to be read as the claims of a token, or as the request
that brings a device's token. -/

namespace Gatehouse

open Json Json.Grammar Json.Reader Json.Record

namespace Json

@[simp]
theorem Record.Fills.empty_iff {α : Type} {means : α → Bytes → Prop} {name : String}
    {members : List Member} {a : α} :
    Fills means none (valuesOf name members) (some a) ↔ Once name (means a) members := by
  constructor
  · intro h
    generalize hvalues : valuesOf name members = values at h
    cases h with
    | fill hmeans => exact ⟨_, hvalues, hmeans⟩
  · rintro ⟨value, hvalues, hmeans⟩
    rw [hvalues]
    exact .fill hmeans

theorem Record.Fills.optional_iff {α : Type} {means : α → Bytes → Prop} {name : String}
    {members : List Member} {a? : Option α} :
    (∃ held : Option (Option α), Fills (OrNull means) none (valuesOf name members) held ∧
      held.join = a?) ↔ AtMostOnce name means a? members := by
  constructor
  · rintro ⟨_ | held, hfills, rfl⟩
    · generalize hvalues : valuesOf name members = values at hfills
      cases hfills
      exact .inl ⟨hvalues, rfl⟩
    · exact .inr (Fills.empty_iff.mp hfills)
  · rintro (⟨hvalues, rfl⟩ | honce)
    · rw [hvalues]
      exact ⟨none, .keep none, rfl⟩
    · exact ⟨some a?, Fills.empty_iff.mpr honce, rfl⟩

namespace Grammar

theorem Quotes.respaced {s : String} {value value' : Bytes} (h : Quotes s value)
    (hspacing : Respaced .value value value') : Quotes s value' := by
  obtain ⟨pieces, hpieces, rfl⟩ := h
  rw [hspacing.eq_of_head (by decide) (by decide)]
  exact ⟨pieces, hpieces, rfl⟩

theorem Integer.respaced {n : Int} {value value' : Bytes} (h : Integer n value)
    (hspacing : Respaced .value value value') : Integer n value' := by
  obtain ⟨b, tail, rfl, hb⟩ := number_head h.number
  have hbracket {c : Char} (hc : ¬(byte c = byte '-' ∨ isDigit (byte c))) : b ≠ byte c := by
    rintro rfl
    exact hc hb
  rw [hspacing.eq_of_head (hbracket (by decide)) (hbracket (by decide))]
  exact h

theorem not_quotes_null (s : String) : ¬Quotes s null := by
  rintro ⟨pieces, -, hnull⟩
  exact absurd (List.cons.inj hnull).1 (by decide)

end Grammar

end Json

namespace AccessClaims

variable {claims : AccessClaims} {members others : List Member} {bytes : Bytes}

structure Told (claims : AccessClaims) (members : List Member) : Prop where
  sub : Once "sub" (Quotes claims.sub) members
  email : AtMostOnce "email" Quotes claims.email members
  phoneNumber : Once "phoneNumber" (Quotes claims.phoneNumber) members
  role : Once "role" (Variant claims.role.wireName) members
  iat : Once "iat" (Integer claims.iat.toInt) members
  exp : Once "exp" (Integer claims.exp.toInt) members

theorem recognises_email : Recognises (option string) (OrNull Quotes) :=
  recognises_option recognises_string fun h => by
    obtain ⟨pieces, -, rfl⟩ := h
    exact fun hhead => absurd (Option.some.inj hhead) (by decide)

theorem recognises_role : Recognises Role.reader fun role => Variant role.wireName :=
  recognises_choice fun text role => by
    simp only [Role.all, List.map_cons, List.map_nil, List.lookup_cons, List.lookup_nil]
    cases role <;> grind [Role.wireName]

def slots : List (Slot Draft) := [
  ⟨String, "sub", false, (·.sub), fun d sub => { d with sub := some sub }, string, Quotes,
    recognises_string, fun _ _ => rfl⟩,
  ⟨Option String, "email", true, (·.email), fun d email => { d with email := some email },
    option string, OrNull Quotes, recognises_email, fun _ _ => rfl⟩,
  ⟨String, "phoneNumber", false, (·.phoneNumber),
    fun d number => { d with phoneNumber := some number }, string, Quotes, recognises_string,
    fun _ _ => rfl⟩,
  ⟨Role, "role", false, (·.role), fun d role => { d with role := some role }, Role.reader,
    fun role => Variant role.wireName, recognises_role, fun _ _ => rfl⟩,
  ⟨Int64, "iat", false, (·.iat), fun d iat => { d with iat := some iat }, int64,
    fun x => Integer x.toInt, recognises_int64, fun _ _ => rfl⟩,
  ⟨Int64, "exp", false, (·.exp), fun d exp => { d with exp := some exp }, int64,
    fun x => Integer x.toInt, recognises_int64, fun _ _ => rfl⟩]

theorem layout : Layout record slots where
  fields := rfl
  names := by decide
  frame a ha b hb := by
    fin_cases ha <;> fin_cases hb <;>
      first | exact fun h => absurd rfl h | exact fun _ _ _ => rfl
  ext draft draft' h := by
    cases draft
    cases draft'
    simpa [slots] using h

theorem draft_of_finish {draft : Draft} (h : record.finish draft = .ok claims) :
    draft = ⟨some claims.sub, draft.email, some claims.phoneNumber, some claims.role,
      some claims.iat, some claims.exp⟩ ∧ draft.email.join = claims.email := by
  simp only [record] at h
  split at h
  case h_6 =>
    cases h
    exact ⟨rfl, rfl⟩
  all_goals cases h

theorem fills_iff {email : Option (Option String)} :
    (∀ slot ∈ slots, Fills slot.means (slot.get record.blank) (valuesOf slot.name members)
      (slot.get ⟨some claims.sub, email, some claims.phoneNumber, some claims.role,
        some claims.iat, some claims.exp⟩)) ↔
      Once "sub" (Quotes claims.sub) members ∧
        Fills (OrNull Quotes) none (valuesOf "email" members) email ∧
        Once "phoneNumber" (Quotes claims.phoneNumber) members ∧
        Once "role" (Variant claims.role.wireName) members ∧
        Once "iat" (Integer claims.iat.toInt) members ∧
        Once "exp" (Integer claims.exp.toInt) members := by
  simp [slots, record]

theorem decode_eq_ok_iff (h : Object members bytes) :
    reader.decode bytes = .ok claims ↔ Told claims members := by
  rw [reader, layout.decode_eq_ok_iff h]
  constructor
  · rintro ⟨draft, hfills, hfinish⟩
    obtain ⟨hdraft, hjoin⟩ := draft_of_finish hfinish
    rw [hdraft, fills_iff] at hfills
    obtain ⟨hsub, hemail, hnumber, hrole, hiat, hexp⟩ := hfills
    exact ⟨hsub, Fills.optional_iff.mp ⟨_, hemail, hjoin⟩, hnumber, hrole, hiat, hexp⟩
  · intro told
    obtain ⟨email, hemail, hjoin⟩ := Fills.optional_iff.mpr told.email
    refine ⟨_, fills_iff.mpr
      ⟨told.sub, hemail, told.phoneNumber, told.role, told.iat, told.exp⟩, ?_⟩
    change Except.ok (⟨_, email.join, _, _, _, _⟩ : AccessClaims) = .ok claims
    rw [hjoin]

def known : List String := ["sub", "email", "phoneNumber", "role", "iat", "exp"]

theorem Told.edited (told : Told claims members) (h : Edited known ["email"] members others) :
    Told claims others where
  sub := told.sub.edited (fun _ _ => .respaced) (by decide) (by decide) h
  email := told.email.edited (fun _ _ _ => .respaced) not_quotes_null (by decide) h
  phoneNumber := told.phoneNumber.edited (fun _ _ => .respaced) (by decide) (by decide) h
  role := told.role.edited (fun _ _ => .respaced) (by decide) (by decide) h
  iat := told.iat.edited (fun _ _ => .respaced) (by decide) (by decide) h
  exp := told.exp.edited (fun _ _ => .respaced) (by decide) (by decide) h

end AccessClaims

namespace RefreshClaims

variable {claims : RefreshClaims} {members others : List Member} {bytes : Bytes}

structure Told (claims : RefreshClaims) (members : List Member) : Prop where
  sub : Once "sub" (Quotes claims.sub) members
  tokenId : Once "tokenId" (Quotes claims.tokenId) members

def slots : List (Slot Draft) := [
  ⟨String, "sub", false, (·.sub), fun d sub => { d with sub := some sub }, string, Quotes,
    recognises_string, fun _ _ => rfl⟩,
  ⟨String, "tokenId", false, (·.tokenId), fun d id => { d with tokenId := some id }, string, Quotes,
    recognises_string, fun _ _ => rfl⟩]

theorem layout : Layout record slots where
  fields := rfl
  names := by decide
  frame a ha b hb := by
    fin_cases ha <;> fin_cases hb <;>
      first | exact fun h => absurd rfl h | exact fun _ _ _ => rfl
  ext draft draft' h := by
    cases draft
    cases draft'
    simpa [slots] using h

theorem draft_of_finish {draft : Draft} (h : record.finish draft = .ok claims) :
    draft = ⟨some claims.sub, some claims.tokenId⟩ := by
  simp only [record] at h
  split at h
  case h_3 =>
    cases h
    rfl
  all_goals cases h

theorem decode_eq_ok_iff (h : Object members bytes) :
    reader.decode bytes = .ok claims ↔ Told claims members := by
  have hfills : (∀ slot ∈ slots, Fills slot.means (slot.get record.blank)
      (valuesOf slot.name members) (slot.get ⟨some claims.sub, some claims.tokenId⟩)) ↔
      Once "sub" (Quotes claims.sub) members ∧
        Once "tokenId" (Quotes claims.tokenId) members := by
    simp [slots, record]
  rw [reader, layout.decode_eq_ok_iff h]
  constructor
  · rintro ⟨draft, hdraft, hfinish⟩
    rw [draft_of_finish hfinish, hfills] at hdraft
    exact ⟨hdraft.1, hdraft.2⟩
  · intro told
    exact ⟨_, hfills.mpr ⟨told.sub, told.tokenId⟩, rfl⟩

def known : List String := ["sub", "tokenId"]

theorem Told.edited (told : Told claims members) (h : Edited known [] members others) :
    Told claims others where
  sub := told.sub.edited (fun _ _ => .respaced) (by decide) (by decide) h
  tokenId := told.tokenId.edited (fun _ _ => .respaced) (by decide) (by decide) h

end RefreshClaims

namespace TokenUpdate

variable {update : TokenUpdate} {members others : List Member} {bytes : Bytes}

def Told (update : TokenUpdate) : List Member → Prop := Once "fcmToken" (Quotes update.fcmToken)

def slots : List (Slot Draft) := [
  ⟨String, "fcmToken", false, (·.fcmToken), fun _ token => ⟨some token⟩, string, Quotes,
    recognises_string, fun _ _ => rfl⟩]

theorem layout : Layout record slots where
  fields := rfl
  names := by decide
  frame a ha b hb := by
    fin_cases ha
    fin_cases hb
    exact fun h => absurd rfl h
  ext draft draft' h := by
    cases draft
    cases draft'
    simpa [slots] using h

theorem decode_eq_ok_iff (h : Object members bytes) :
    reader.decode bytes = .ok update ↔ Told update members := by
  have hfills : (∀ slot ∈ slots, Fills slot.means (slot.get record.blank)
      (valuesOf slot.name members) (slot.get ⟨some update.fcmToken⟩)) ↔ Told update members := by
    simp [slots, record, Told]
  rw [reader, layout.decode_eq_ok_iff h]
  constructor
  · rintro ⟨draft, hdraft, hfinish⟩
    obtain ⟨_ | token⟩ := draft
    · cases hfinish
    · cases hfinish
      exact hfills.mp hdraft
  · exact fun told => ⟨_, hfills.mpr told, rfl⟩

def known : List String := ["fcmToken"]

theorem Told.edited (told : Told update members) (h : Edited known [] members others) :
    Told update others :=
  Once.edited told (fun _ _ => .respaced) (by decide) (by decide) h

end TokenUpdate

namespace Json

/-- A reader accepts the text of an object exactly if its members tell a value, and answers with it
whatever else there is: neither edits beside the names that it knows nor other blanks anywhere in
the text change the answer. -/
structure ReadsMembers {α : Type} (reader : Reader α) (known mayLack : List String)
    (told : α → List Member → Prop) : Prop where
  accepts {members : List Member} {bytes : Bytes} (h : Object members bytes) (a : α) :
    reader.decode bytes = .ok a ↔ told a members
  edited {members others : List Member} {bytes bytes' : Bytes} (h : Object members bytes)
    (h' : Object others bytes') (hedits : Edited known mayLack members others) (a : α) :
    reader.decode bytes = .ok a ↔ reader.decode bytes' = .ok a
  respaced {members : List Member} {value value' bytes bytes' : Bytes} (h : Object members bytes)
    (hpadded : Padded value bytes) (hspacing : Respaced .value value value')
    (hpadded' : Padded value' bytes') (a : α) :
    reader.decode bytes = .ok a ↔ reader.decode bytes' = .ok a

theorem ReadsMembers.of_told {α : Type} {reader : Reader α} {known mayLack : List String}
    {told : α → List Member → Prop}
    (haccepts : ∀ {a : α} {members : List Member} {bytes : Bytes}, Object members bytes →
      (reader.decode bytes = .ok a ↔ told a members))
    (hedited : ∀ {a : α} {members others : List Member}, told a members →
      Edited known mayLack members others → told a others) :
    ReadsMembers reader known mayLack told := by
  have hsame {members others : List Member} {bytes bytes' : Bytes} (h : Object members bytes)
      (h' : Object others bytes') (hedits : Edited known mayLack members others) (a : α) :
      reader.decode bytes = .ok a ↔ reader.decode bytes' = .ok a := by
    rw [haccepts h, haccepts h']
    exact ⟨(hedited · hedits), (hedited · hedits.symm)⟩
  refine ⟨fun h _ => haccepts h, hsame, fun h hpadded hspacing hpadded' => ?_⟩
  -- The text with other blanks is an object with the same members, only respaced.
  obtain ⟨others, hothers, hrespaced⟩ := h.respaced hpadded hspacing hpadded'
  exact hsame h hothers (.rel _ _ (.respace hrespaced))

end Json

/-- The readers of claims and of requests know an object by its members, and of these only those
that they ask for. -/
theorem readers_know_members :
    ReadsMembers AccessClaims.reader ["sub", "email", "phoneNumber", "role", "iat", "exp"]
      ["email"] AccessClaims.Told ∧
    ReadsMembers RefreshClaims.reader ["sub", "tokenId"] [] RefreshClaims.Told ∧
    ReadsMembers TokenUpdate.reader ["fcmToken"] [] TokenUpdate.Told :=
  ⟨.of_told AccessClaims.decode_eq_ok_iff AccessClaims.Told.edited,
    .of_told RefreshClaims.decode_eq_ok_iff RefreshClaims.Told.edited,
    .of_told TokenUpdate.decode_eq_ok_iff TokenUpdate.Told.edited⟩

/-- An administrator's claims, once with a missing address told, and once in another order with a
member whose name is not known, also with blanks around them. -/
theorem readers_know_members_reordered :
    let claims : AccessClaims := ⟨"u", none, "+49", .admin, 1, 2⟩
    let role : Value := .object [("admin", .null)]
    let members : List (String × Value) := [("sub", .text "u"), ("phoneNumber", .text "+49"),
      ("role", role), ("iat", .integer 1), ("exp", .integer 2)]
    let plain := Value.object (("email", .null) :: members)
    let other := Value.object (("phone_number", .list []) :: members.reverse)
    let spaced : Bytes := word [' '] ++ (Text.Utf8.encode other.render ++ word ['\n'])
    AccessClaims.reader.decode (Text.Utf8.encode plain.render) = .ok claims ∧
      AccessClaims.reader.decode (Text.Utf8.encode other.render) = .ok claims ∧
      AccessClaims.reader.decode spaced = .ok claims := by
  intro claims role members plain other spaced
  have hplain : Object _ (Text.Utf8.encode plain.render) := Value.object_render _
  have hother : Object _ (Text.Utf8.encode other.render) := Value.object_render _
  have hadmin : Variant "admin" (Text.Utf8.encode role.render) := by
    have hbytes : Text.Utf8.encode role.render = byte '\x7b' ::
        (Text.Utf8.encode (Value.quote "admin") ++ (word [':'] ++ Grammar.null) ++
          [byte '\x7d']) := by
      decide +kernel
    rw [hbytes]
    exact .object (Value.quotes_quote "admin") ⟨[], [], .nil, .nil, rfl⟩
      ⟨[], [], .nil, .nil, (List.append_nil _).symm⟩
  have htold : AccessClaims.Told claims ((("email", Value.null) :: members).map Value.written) := by
    simp only [members, List.map_cons, List.map_nil, Value.written]
    exact ⟨⟨_, by simp, Value.quotes_render "u"⟩,
      .inr ⟨Text.Utf8.encode Value.null.render, by simp, rfl⟩,
      ⟨_, by simp, Value.quotes_render "+49"⟩, ⟨_, by simp, hadmin⟩,
      ⟨_, by simp, Value.integer_render 1⟩, ⟨_, by simp, Value.integer_render 2⟩⟩
  have hedits : Edited ["sub", "email", "phoneNumber", "role", "iat", "exp"] ["email"]
      ((("email", Value.null) :: members).map Value.written)
      ((("phone_number", Value.list []) :: members.reverse).map Value.written) := by
    have hlack : ∀ member ∈ members.map Value.written, member.1 ≠ "email" := by
      simp [members, Value.written]
    have hreverse := (List.reverse_perm members).symm.map Value.written
    exact .trans _ _ _ (.rel _ _ (.lack (by decide) hlack))
      (.trans _ _ _ (.rel _ _ (.permute hreverse)) (.rel _ _ (.unknown (by decide))))
  have hpadded (text : Bytes) : Padded text text := ⟨[], [], .nil, .nil, (List.append_nil _).symm⟩
  have hspaced : Padded (Text.Utf8.encode other.render) spaced :=
    ⟨word [' '], word ['\n'], by decide, by decide, rfl⟩
  have hspacing : Respaced .value _ _ := .same (Value.derives_render other)
  have hread := (readers_know_members.1.accepts hplain claims).mpr htold
  have hreordered := (readers_know_members.1.edited hplain hother hedits claims).mp hread
  have hblanks := readers_know_members.1.respaced hother (hpadded _) hspacing hspaced claims
  exact ⟨hread, hreordered, hblanks.mp hreordered⟩

end Gatehouse
