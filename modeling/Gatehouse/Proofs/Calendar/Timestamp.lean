import Gatehouse.Proofs.Calendar.Rfc3339
import Mathlib.Data.List.DropRight

/-! What a timestamp is written as. Where it can be written at all its text has the parts of its
instant, and reads as just this instant with this offset. -/

namespace Gatehouse.Calendar

open Text

namespace Rfc3339

def trimmed (nanos : Nat) : List Char := (Decimal.padded 9 nanos).rdropWhile (· == '0')

theorem isDigit_of_mem_trimmed {nanos : Nat} {c : Char} (h : c ∈ trimmed nanos) :
    Decimal.isDigit c = true :=
  Decimal.mem_padded ((List.rdropWhile_prefix _ _).subset h)

theorem getLast?_trimmed (nanos : Nat) : (trimmed nanos).getLast? ≠ some '0' := by
  intro hlast
  obtain ⟨hne, hzero⟩ := List.mem_getLast?_eq_getLast hlast
  exact List.rdropWhile_last_not _ _ hne (beq_iff_eq.mpr hzero.symm)

variable {nanos : Nat} (h : nanos < 1000000000)

include h

theorem length_trimmed : (trimmed nanos).length ≤ 9 := by
  have hlength : (Decimal.padded 9 nanos).length = 9 := Decimal.length_padded (by decide) h
  rw [← hlength]
  exact (List.rdropWhile_prefix _ _).length_le

theorem trimmed_append : trimmed nanos ++ List.replicate (9 - (trimmed nanos).length) '0' =
    Decimal.padded 9 nanos := by
  have hall : trimmed nanos ++ (Decimal.padded 9 nanos).rtakeWhile (· == '0') =
      Decimal.padded 9 nanos := List.rdropWhile_append_rtakeWhile
  have hzeros : (Decimal.padded 9 nanos).rtakeWhile (· == '0') =
      List.replicate (9 - (trimmed nanos).length) '0' := by
    refine List.eq_replicate_iff.mpr ⟨?_, fun c hc => ?_⟩
    · have hlength := congrArg List.length hall
      rw [List.length_append, Decimal.length_padded (by decide) h] at hlength
      exact (Nat.sub_eq_of_eq_add' hlength.symm).symm
    · exact beq_iff_eq.mp (List.mem_rtakeWhile_imp (p := (· == '0')) hc)
  rw [← hzeros]
  exact hall

theorem fractionNanos_trimmed : fractionNanos (trimmed nanos) = nanos := by
  rw [fractionNanos, List.take_of_length_le (length_trimmed h), trimmed_append h]
  exact (Decimal.parse?_eq_some_iff.mp (Decimal.parse?_padded 9 nanos)).2.2

theorem trimmed_eq_nil_iff : trimmed nanos = [] ↔ nanos = 0 := by
  constructor
  · intro hnil
    rw [← fractionNanos_trimmed h, hnil]
    rfl
  · rintro rfl
    decide

end Rfc3339

namespace Timestamp

def zone (t : Timestamp) : Zone :=
  if t.offset = 0 then .utc
  else if t.offset < 0 then .behind (t.offset.natAbs / 3600) (t.offset.natAbs / 60 % 60)
  else .ahead (t.offset.natAbs / 3600) (t.offset.natAbs / 60 % 60)

def parts (t : Timestamp) : Rfc3339 where
  date := t.localDate
  hour := t.secondOfDay / 3600
  minute := t.secondOfDay / 60 % 60
  second := t.secondOfDay % 60
  fraction := Rfc3339.trimmed t.subsecond
  zone := t.zone

theorem subsecond_lt (t : Timestamp) : t.subsecond < 1000000000 := by
  unfold subsecond
  omega

theorem secondOfDay_lt (t : Timestamp) : t.secondOfDay < 86400 := by
  unfold secondOfDay
  omega

theorem fractionText_eq {nanos : Nat} (h : nanos < 1000000000) :
    fractionText nanos = Rfc3339.pointed (Rfc3339.trimmed nanos) := by
  rw [fractionText, Rfc3339.pointed]
  exact (if_congr (Rfc3339.trimmed_eq_nil_iff h) rfl rfl).symm

theorem offsetText_eq (t : Timestamp) : offsetText t.offset = t.zone.text := by
  rw [offsetText, zone]
  split
  · rfl
  · split <;> rfl

theorem toList_text (t : Timestamp) : t.text.toList = t.parts.text := by
  rw [text, String.toList_ofList, fractionText_eq t.subsecond_lt, offsetText_eq]
  simp [dateText, clockText, Rfc3339.text, parts]

example : (Timestamp.mk (-1) (-1800)).text = "1969-12-31T23:29:59.999999999-00:30" := by decide

theorem check_eq_ok_iff {t : Timestamp} : t.check = .ok () ↔
    t.utcYear.natAbs ≤ 9999 ∧ t.offset.natAbs ≤ maxOffset ∧
      0 ≤ t.localDate.year ∧ t.localDate.year ≤ 9999 ∧
      t.offset.natAbs < 86400 ∧ t.offset.natAbs % 60 = 0 := by
  unfold check
  repeat' split
  all_goals simp
  all_goals omega

theorem seconds_zone {t : Timestamp} (h : t.offset.natAbs % 60 = 0) :
    t.zone.seconds = t.offset := by
  rw [zone]
  split
  · next hzero => exact hzero.symm
  · split
    · next hbehind =>
      rw [Zone.seconds]
      omega
    · next hahead =>
      rw [Zone.seconds]
      omega

theorem proper_zone {t : Timestamp} (hday : t.offset.natAbs < 86400)
    (hminute : t.offset.natAbs % 60 = 0) : t.zone.Proper := by
  rw [zone]
  split
  · trivial
  · split
    · exact ⟨by omega, by omega, by omega⟩
    · exact ⟨by omega, by omega, by omega⟩

theorem proper_parts {t : Timestamp} (h : t.check = .ok ()) : t.parts.Proper := by
  obtain ⟨-, -, hyear, hyear', hday, hminute⟩ := check_eq_ok_iff.mp h
  have hsecond := t.secondOfDay_lt
  exact
    { date := Date.isValid_ofDay _
      year := ⟨hyear, hyear'⟩
      hour := by dsimp only [parts]; omega
      minute := Nat.mod_lt _ (by decide)
      second := Nat.mod_lt _ (by decide)
      fraction := fun _ => Rfc3339.isDigit_of_mem_trimmed
      fraction_length := Rfc3339.length_trimmed t.subsecond_lt
      fraction_last := Rfc3339.getLast?_trimmed _
      zone := proper_zone hday hminute }

theorem timestamp_parts {t : Timestamp} (h : t.offset.natAbs % 60 = 0) :
    t.parts.timestamp = t := by
  have hclock : 3600 * (t.secondOfDay / 3600) + 60 * (t.secondOfDay / 60 % 60) +
      t.secondOfDay % 60 = t.secondOfDay := by omega
  have hlocal : 86400 * (t.localSeconds / 86400) + (t.secondOfDay : Int) = t.localSeconds := by
    unfold secondOfDay
    omega
  have hnanos : (t.localSeconds - t.offset) * 1000000000 + (t.subsecond : Int) = t.nanos := by
    unfold localSeconds subsecond
    omega
  rw [Rfc3339.timestamp]
  change Timestamp.mk ((86400 * (Date.ofDay _).toDay + (3600 * (t.secondOfDay / 3600) +
    60 * (t.secondOfDay / 60 % 60) + t.secondOfDay % 60 : Nat) - t.zone.seconds) * 1000000000 +
      Rfc3339.fractionNanos (Rfc3339.trimmed t.subsecond)) t.zone.seconds = t
  rw [Date.toDay_ofDay, hclock, hlocal, seconds_zone h,
    Rfc3339.fractionNanos_trimmed t.subsecond_lt, hnanos]

theorem read?_text {t : Timestamp} (h : t.check = .ok ()) :
    (Rfc3339.read? t.text.toList).map Rfc3339.timestamp = some t := by
  rw [toList_text, Rfc3339.read?_text (proper_parts h), Option.map_some,
    timestamp_parts (check_eq_ok_iff.mp h).2.2.2.2.2]

theorem utcYear_iff (t : Timestamp) : 0 ≤ t.utcYear ∧ t.utcYear ≤ 9999 ↔
    -62167219200000000000 ≤ t.nanos ∧ t.nanos < 253402300800000000000 := by
  have hlower := Date.le_year_ofDay_iff 0 (t.nanos / 1000000000 / 86400)
  have hupper := Date.le_year_ofDay_iff 10000 (t.nanos / 1000000000 / 86400)
  have hfirst : Date.toDay ⟨0, 1, 1⟩ = -719528 := by decide
  have hlast : Date.toDay ⟨10000, 1, 1⟩ = 2932897 := by decide
  rw [hfirst] at hlower
  rw [hlast] at hupper
  unfold utcYear
  omega

theorem check_of_utc {t : Timestamp} (hoffset : t.offset = 0)
    (h : 0 ≤ t.utcYear ∧ t.utcYear ≤ 9999) : t.check = .ok () := by
  have hlocal : t.localDate.year = t.utcYear := by
    rw [localDate, localSeconds, hoffset, Int.add_zero]
    rfl
  rw [check_eq_ok_iff, hlocal, hoffset]
  exact ⟨by omega, by decide, h.1, h.2, by decide, rfl⟩

end Timestamp

end Gatehouse.Calendar
