import Gatehouse.Health
import Gatehouse.Proofs.Calendar.Timestamp

/-! The body of the health endpoint tells its instant: it is written for just the timestamps that
have a text, the text reads as the same nanosecond at the same offset, and no two share it. -/

namespace Gatehouse

open Calendar

theorem Json.Value.escape_of_plain {c : Char} (hprintable : 32 ≤ c.toNat) (hquote : c ≠ '"')
    (hbackslash : c ≠ '\\') : escape c = [c] := by
  unfold escape
  split
  case h_1 => exact absurd rfl hquote
  case h_2 => exact absurd rfl hbackslash
  case h_8 => rw [if_neg (by omega), if_neg (by omega)]
  all_goals exact absurd hprintable (by decide)

theorem Json.Value.quote_of_plain {s : String}
    (h : ∀ c ∈ s.toList, 32 ≤ c.toNat ∧ c ≠ '"' ∧ c ≠ '\\') : quote s = "\"" ++ s ++ "\"" := by
  have hsame : s.toList.flatMap escape = s.toList := by
    rw [List.flatMap_congr (g := fun c => [c]) fun c hc =>
      escape_of_plain (h c hc).1 (h c hc).2.1 (h c hc).2.2]
    exact List.flatMap_singleton' s.toList
  apply String.toList_inj.mp
  rw [quote, String.toList_ofList, quoteChars, hsame]
  simp

namespace Calendar.Rfc3339

def marks : List Char := ['-', 'T', ':', '.', 'Z', '+']

theorem mem_text {parts : Rfc3339} (h : parts.Proper) :
    ∀ c ∈ parts.text, Text.Decimal.isDigit c = true ∨ c ∈ marks := by
  have hpadded (width n : Nat) :
      ∀ c ∈ Text.Decimal.padded width n, Text.Decimal.isDigit c = true ∨ c ∈ marks :=
    fun c hc => .inl (Text.Decimal.mem_padded hc)
  have hfraction : ∀ c ∈ pointed parts.fraction,
      Text.Decimal.isDigit c = true ∨ c ∈ marks := by
    rw [pointed]
    split
    · exact List.forall_mem_nil _
    · exact List.forall_mem_cons.mpr ⟨.inr (by decide), fun c hc => .inl (h.fraction c hc)⟩
  have hzone : ∀ c ∈ parts.zone.text, Text.Decimal.isDigit c = true ∨ c ∈ marks := by
    cases parts.zone with
    | utc => exact List.forall_mem_singleton.mpr (.inr (by decide))
    | ahead hour minute =>
      simp only [Zone.text, List.forall_mem_cons, List.forall_mem_append]
      exact ⟨.inr (by decide), hpadded 2 hour, .inr (by decide), hpadded 2 minute⟩
    | behind hour minute =>
      simp only [Zone.text, List.forall_mem_cons, List.forall_mem_append]
      exact ⟨.inr (by decide), hpadded 2 hour, .inr (by decide), hpadded 2 minute⟩
  simp only [text, List.forall_mem_cons, List.forall_mem_append]
  exact ⟨hpadded _ _, .inr (by decide), hpadded _ _, .inr (by decide), hpadded _ _,
    .inr (by decide), hpadded _ _, .inr (by decide), hpadded _ _, .inr (by decide), hpadded _ _,
    hfraction, hzone⟩

end Calendar.Rfc3339

namespace Health

theorem render_body {parts : Rfc3339} (h : parts.Proper) :
    (body (String.ofList parts.text)).render =
      "\x7b\"status\":\"ok\",\"timestamp\":\"" ++ String.ofList parts.text ++ "\"\x7d" := by
  have hplain : ∀ c ∈ (String.ofList parts.text).toList, 32 ≤ c.toNat ∧ c ≠ '"' ∧ c ≠ '\\' := by
    intro c hc
    rw [String.toList_ofList] at hc
    rcases Rfc3339.mem_text h c hc with hdigit | hmark
    · have hrange := Text.Decimal.toNat_of_isDigit hdigit
      refine ⟨by omega, ?_, ?_⟩ <;> rintro rfl <;> exact absurd hdigit (by decide)
    · have hmarks : Rfc3339.marks.all
          (fun c => decide (32 ≤ c.toNat ∧ c ≠ '"' ∧ c ≠ '\\')) = true := by decide
      exact of_decide_eq_true (List.all_eq_true.mp hmarks c hmark)
  have hstatus : Json.Value.quote "status" = "\"status\"" := by decide
  have hok : Json.Value.quote "ok" = "\"ok\"" := by decide
  have htimestamp : Json.Value.quote "timestamp" = "\"timestamp\"" := by decide
  simp only [body, Json.Value.render, Json.Value.renderMembers, hstatus, hok, htimestamp,
    Json.Value.quote_of_plain hplain]
  apply String.toList_inj.mp
  simp

theorem render_of_check {t : Timestamp} (h : t.check = .ok ()) :
    render t = .ok (body t.text).render := by
  rw [render, Timestamp.write, h]
  rfl

theorem check_of_render {t : Timestamp} {text : String} (h : render t = .ok text) :
    t.check = .ok () := by
  rw [render, Timestamp.write] at h
  cases hcheck : t.check with
  | ok => rfl
  | error error =>
    rw [hcheck] at h
    cases h

theorem exists_render_iff {t : Timestamp} : (∃ text, render t = .ok text) ↔ t.check = .ok () :=
  ⟨fun ⟨_, h⟩ => check_of_render h, fun h => ⟨_, render_of_check h⟩⟩

theorem render_eq {t : Timestamp} {text : String} (h : render t = .ok text) :
    text = "\x7b\"status\":\"ok\",\"timestamp\":\"" ++ String.ofList t.parts.text ++ "\"\x7d" := by
  have hcheck := check_of_render h
  have htext : t.text = String.ofList t.parts.text := by
    rw [← Timestamp.toList_text, String.ofList_toList]
  rw [render_of_check hcheck, htext, render_body (Timestamp.proper_parts hcheck)] at h
  exact (Except.ok.inj h).symm

theorem render_inj {t t' : Timestamp} {text : String} (h : render t = .ok text)
    (h' : render t' = .ok text) : t = t' := by
  have hcheck := check_of_render h
  have hcheck' := check_of_render h'
  have htext := (render_eq h).symm.trans (render_eq h')
  rw [String.append_left_inj, String.append_right_inj] at htext
  replace htext : t.parts.text = t'.parts.text := by simpa using congrArg String.toList htext
  have hread := Timestamp.read?_text hcheck
  rw [Timestamp.toList_text, htext, ← Timestamp.toList_text,
    Timestamp.read?_text hcheck'] at hread
  exact (Option.some.inj hread).symm

/-- Of the timestamps that can be stated just those can be written whose local year has four digits
and whose offset is whole minutes of less than a day. The text has the local date by the calendar
and no needless digits, reads as the same nanosecond at the same offset, and is shared by no other
timestamp. In UTC every instant of the years 0 to 9999 is written. -/
theorem render_denotes_instant :
    (∀ t : Timestamp, t.utcYear.natAbs ≤ 9999 → t.offset.natAbs ≤ 93599 →
      ((∃ text, render t = .ok text) ↔ 0 ≤ t.localDate.year ∧ t.localDate.year ≤ 9999 ∧
        t.offset.natAbs < 86400 ∧ t.offset.natAbs % 60 = 0)) ∧
    (∀ t text, render t = .ok text → ∃ parts : Rfc3339,
      text =
        "\x7b\"status\":\"ok\",\"timestamp\":\"" ++ String.ofList parts.text ++ "\"\x7d" ∧
      parts.Proper ∧ parts.date = t.localDate ∧ (parts.fraction = [] ↔ t.nanos % 1000000000 = 0) ∧
      Rfc3339.read? parts.text = some parts ∧ parts.timestamp = t) ∧
    (∀ t t' text, render t = .ok text → render t' = .ok text → t = t') ∧
    (∀ t : Timestamp, t.offset = 0 → 0 ≤ t.utcYear ∧ t.utcYear ≤ 9999 →
      ∃ text, render t = .ok text) ∧
    (∀ now : UtcTime, render now.timestamp = .ok (body now.timestamp.text).render) ∧
    Date.ofDay 0 = ⟨1970, 1, 1⟩ ∧ ∀ day, Date.ofDay (day + 1) = (Date.ofDay day).next := by
  refine ⟨fun t hyear hoffset => ?_, fun t text h => ?_, fun t t' text => render_inj,
    fun t hoffset hyear => exists_render_iff.mpr (Timestamp.check_of_utc hoffset hyear),
    fun now => render_of_check
      (Timestamp.check_of_utc rfl ((Timestamp.utcYear_iff _).mpr now.inYears)),
    Date.ofDay_zero, Date.ofDay_succ⟩
  · rw [exists_render_iff, Timestamp.check_eq_ok_iff]
    exact ⟨fun h => h.2.2, fun h => ⟨hyear, hoffset, h⟩⟩
  · have hcheck := check_of_render h
    have hproper := Timestamp.proper_parts hcheck
    refine ⟨t.parts, render_eq h, hproper, rfl, ?_, Rfc3339.read?_text hproper,
      Timestamp.timestamp_parts (Timestamp.check_eq_ok_iff.mp hcheck).2.2.2.2.2⟩
    have hfraction := Rfc3339.trimmed_eq_nil_iff t.subsecond_lt
    have hsubsecond : t.subsecond = 0 ↔ t.nanos % 1000000000 = 0 := by
      unfold Timestamp.subsecond
      omega
    exact hfraction.trans hsubsecond

theorem render_denotes_instant_before_epoch : ∃ text other,
    render ⟨-1, -1800⟩ = .ok text ∧ render ⟨-1000000001, -1800⟩ = .ok other ∧ text ≠ other := by
  obtain ⟨hwritten, -, hinj, -⟩ := render_denotes_instant
  obtain ⟨text, htext⟩ := (hwritten ⟨-1, -1800⟩ (by decide) (by decide)).mpr (by decide)
  obtain ⟨other, hother⟩ :=
    (hwritten ⟨-1000000001, -1800⟩ (by decide) (by decide)).mpr (by decide)
  refine ⟨text, other, htext, hother, ?_⟩
  rintro rfl
  exact absurd (hinj _ _ _ htext hother) (by decide)

end Health

end Gatehouse
