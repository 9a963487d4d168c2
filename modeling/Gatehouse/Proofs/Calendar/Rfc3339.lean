import Gatehouse.Calendar.Timestamp
import Gatehouse.Proofs.Calendar.Date
import Gatehouse.Proofs.Text.Decimal

/-! Timestamps as RFC 3339 has them: the parts of a text, what they denote, and a reader of any such
text. A leap second has no nanoseconds of its own and is not read. -/

namespace Gatehouse.Calendar

open Text

inductive Zone where
  | utc
  | ahead (hour minute : Nat)
  | behind (hour minute : Nat)
  deriving DecidableEq

namespace Zone

def seconds : Zone → Int
  | utc => 0
  | ahead hour minute => (3600 * hour + 60 * minute : Nat)
  | behind hour minute => -(3600 * hour + 60 * minute : Nat)

def text : Zone → List Char
  | utc => ['Z']
  | ahead hour minute => '+' :: (Decimal.padded 2 hour ++ ':' :: Decimal.padded 2 minute)
  | behind hour minute => '-' :: (Decimal.padded 2 hour ++ ':' :: Decimal.padded 2 minute)

def Proper : Zone → Prop
  | utc => True
  | ahead hour minute => hour < 24 ∧ minute < 60 ∧ 0 < 60 * hour + minute
  | behind hour minute => hour < 24 ∧ minute < 60 ∧ 0 < 60 * hour + minute

end Zone

structure Rfc3339 where
  date : Date
  hour : Nat
  minute : Nat
  second : Nat
  fraction : List Char
  zone : Zone
  deriving DecidableEq

namespace Rfc3339

def fractionNanos (digits : List Char) : Nat :=
  Decimal.value (digits.take 9 ++ List.replicate (9 - digits.length) '0')

def timestamp (parts : Rfc3339) : Timestamp where
  nanos :=
    (86400 * parts.date.toDay + (3600 * parts.hour + 60 * parts.minute + parts.second : Nat) -
      parts.zone.seconds) * 1000000000 + fractionNanos parts.fraction
  offset := parts.zone.seconds

def pointed (digits : List Char) : List Char := if digits = [] then [] else '.' :: digits

def text (parts : Rfc3339) : List Char :=
  Decimal.padded 4 parts.date.year.toNat ++ '-' :: (Decimal.padded 2 parts.date.month ++
    '-' :: (Decimal.padded 2 parts.date.day ++ 'T' :: (Decimal.padded 2 parts.hour ++
      ':' :: (Decimal.padded 2 parts.minute ++ ':' :: (Decimal.padded 2 parts.second ++
        (pointed parts.fraction ++ parts.zone.text))))))

structure Proper (parts : Rfc3339) : Prop where
  date : parts.date.IsValid
  year : 0 ≤ parts.date.year ∧ parts.date.year ≤ 9999
  hour : parts.hour < 24
  minute : parts.minute < 60
  second : parts.second < 60
  fraction : ∀ c ∈ parts.fraction, Decimal.isDigit c = true
  fraction_length : parts.fraction.length ≤ 9
  fraction_last : parts.fraction.getLast? ≠ some '0'
  zone : parts.zone.Proper

def numeral? (width : Nat) (cs : List Char) : Option (Nat × List Char) :=
  if width ≤ cs.length then (Decimal.parse? (cs.take width)).map (·, cs.drop width) else none

def mark? (marks : List Char) : List Char → Option (List Char)
  | c :: cs => if c ∈ marks then some cs else none
  | [] => none

def readDate? (cs : List Char) : Option (Date × List Char) := do
  let (year, cs) ← numeral? 4 cs
  let (month, cs) ← numeral? 2 (← mark? ['-'] cs)
  let (day, cs) ← numeral? 2 (← mark? ['-'] cs)
  if Date.IsValid ⟨year, month, day⟩ then some (⟨year, month, day⟩, cs) else none

def readClock? (cs : List Char) : Option (Nat × Nat × List Char) := do
  let (hour, cs) ← numeral? 2 cs
  let (minute, cs) ← numeral? 2 (← mark? [':'] cs)
  if hour < 24 ∧ minute < 60 then some (hour, minute, cs) else none

def readSecond? (cs : List Char) : Option (Nat × List Char) := do
  let (second, cs) ← numeral? 2 (← mark? [':'] cs)
  if second < 60 then some (second, cs) else none

def readFraction? : List Char → Option (List Char × List Char)
  | '.' :: cs =>
    let digits := cs.takeWhile Decimal.isDigit
    if digits = [] then none else some (digits, cs.dropWhile Decimal.isDigit)
  | cs => some ([], cs)

def readZone? : List Char → Option Zone
  | ['Z'] => some .utc
  | ['z'] => some .utc
  | '+' :: cs => do
    let (hour, minute, rest) ← readClock? cs
    if rest = [] then some (.ahead hour minute) else none
  | '-' :: cs => do
    let (hour, minute, rest) ← readClock? cs
    if rest = [] then some (.behind hour minute) else none
  | _ => none

def read? (cs : List Char) : Option Rfc3339 := do
  let (date, cs) ← readDate? cs
  let (hour, minute, cs) ← readClock? (← mark? ['T', 't'] cs)
  let (second, cs) ← readSecond? cs
  let (fraction, cs) ← readFraction? cs
  let zone ← readZone? cs
  return ⟨date, hour, minute, second, fraction, zone⟩

theorem numeral?_padded {width n : Nat} (hwidth : 0 < width) (h : n < 10 ^ width)
    (rest : List Char) : numeral? width (Decimal.padded width n ++ rest) = some (n, rest) := by
  have hlength := Decimal.length_padded hwidth h
  have htake : (Decimal.padded width n ++ rest).take width = Decimal.padded width n :=
    List.take_left' hlength
  have hdrop : (Decimal.padded width n ++ rest).drop width = rest := List.drop_left' hlength
  have hle : width ≤ (Decimal.padded width n ++ rest).length := by
    rw [List.length_append, hlength]
    exact Nat.le_add_right _ _
  rw [numeral?, if_pos hle, htake, hdrop, Decimal.parse?_padded]
  rfl

theorem mark?_cons {marks : List Char} {c : Char} (h : c ∈ marks) (cs : List Char) :
    mark? marks (c :: cs) = some cs := if_pos h

theorem readDate?_text {date : Date} (hdate : date.IsValid)
    (hyear : 0 ≤ date.year ∧ date.year ≤ 9999) (rest : List Char) :
    readDate? (Decimal.padded 4 date.year.toNat ++ '-' :: (Decimal.padded 2 date.month ++
      '-' :: (Decimal.padded 2 date.day ++ rest))) = some (date, rest) := by
  have hday : date.day ≤ 31 := hdate.day_le.trans (daysIn_le _ _)
  have hmonth := hdate.month_le
  have hdate' : (⟨date.year.toNat, date.month, date.day⟩ : Date) = date := by
    rw [Int.toNat_of_nonneg hyear.1]
  rw [readDate?, numeral?_padded (by decide) (by omega)]
  simp only [Option.bind_eq_bind, Option.bind_some, mark?_cons (List.mem_singleton.mpr rfl)]
  rw [numeral?_padded (by decide) (by omega)]
  simp only [Option.bind_some, mark?_cons (List.mem_singleton.mpr rfl)]
  rw [numeral?_padded (by decide) (by omega)]
  simp only [Option.bind_some]
  rw [hdate', if_pos hdate]

theorem readClock?_text {hour minute : Nat} (hhour : hour < 24) (hminute : minute < 60)
    (rest : List Char) :
    readClock? (Decimal.padded 2 hour ++ ':' :: (Decimal.padded 2 minute ++ rest)) =
      some (hour, minute, rest) := by
  rw [readClock?, numeral?_padded (by decide) (by omega)]
  simp only [Option.bind_eq_bind, Option.bind_some, mark?_cons (List.mem_singleton.mpr rfl)]
  rw [numeral?_padded (by decide) (by omega)]
  simp only [Option.bind_some]
  rw [if_pos ⟨hhour, hminute⟩]

theorem readSecond?_text {second : Nat} (h : second < 60) (rest : List Char) :
    readSecond? (':' :: (Decimal.padded 2 second ++ rest)) = some (second, rest) := by
  rw [readSecond?, mark?_cons (List.mem_singleton.mpr rfl), Option.bind_eq_bind, Option.bind_some,
    numeral?_padded (by decide) (by omega)]
  simp only [Option.bind_eq_bind, Option.bind_some]
  rw [if_pos h]

theorem readFraction?_text {digits : List Char} (h : ∀ c ∈ digits, Decimal.isDigit c = true)
    (zone : Zone) : readFraction? (pointed digits ++ zone.text) = some (digits, zone.text) := by
  by_cases hempty : digits = []
  · subst hempty
    change readFraction? zone.text = _
    cases zone <;> rfl
  · have htake : (digits ++ zone.text).takeWhile Decimal.isDigit = digits := by
      rw [List.takeWhile_append_of_pos h]
      cases zone <;> simp [Zone.text, Decimal.isDigit]
    have hdrop : (digits ++ zone.text).dropWhile Decimal.isDigit = zone.text := by
      rw [List.dropWhile_append_of_pos h]
      cases zone <;> rfl
    rw [pointed, if_neg hempty, List.cons_append, readFraction?, htake, hdrop]
    exact if_neg hempty

theorem readZone?_text {zone : Zone} (h : zone.Proper) : readZone? zone.text = some zone := by
  have hclock {hour minute : Nat} (hhour : hour < 24) (hminute : minute < 60) :
      readClock? (Decimal.padded 2 hour ++ ':' :: Decimal.padded 2 minute) =
        some (hour, minute, []) := by
    simpa using readClock?_text hhour hminute []
  cases zone with
  | utc => rfl
  | ahead hour minute =>
    rw [Zone.text, readZone?, hclock h.1 h.2.1]
    rfl
  | behind hour minute =>
    rw [Zone.text, readZone?, hclock h.1 h.2.1]
    rfl

theorem read?_text {parts : Rfc3339} (h : parts.Proper) : read? parts.text = some parts := by
  rw [read?, text, readDate?_text h.date h.year]
  simp only [Option.bind_eq_bind, Option.bind_some, mark?_cons (show 'T' ∈ ['T', 't'] by decide)]
  rw [readClock?_text h.hour h.minute]
  simp only [Option.bind_some]
  rw [readSecond?_text h.second]
  simp only [Option.bind_some]
  rw [readFraction?_text h.fraction]
  simp only [Option.bind_some]
  rw [readZone?_text h.zone]
  rfl

end Rfc3339

end Gatehouse.Calendar
