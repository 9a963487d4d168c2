import Gatehouse.Calendar.Date
import Mathlib.Tactic.IntervalCases

/-! The calendar that the conversion between days and dates follows. It is given by its rules, the
lengths of the months and the leap years, and the first of January 1970 as day 0: the date of a day
is always one of the calendar, and that of the next day is the next date. -/

namespace Gatehouse.Calendar

def IsLeap (year : Int) : Prop := year % 4 = 0 ∧ (year % 100 ≠ 0 ∨ year % 400 = 0)

instance (year : Int) : Decidable (IsLeap year) := inferInstanceAs (Decidable (_ ∧ _))

def daysIn (year : Int) (month : Nat) : Nat :=
  match month with
  | 2 => if IsLeap year then 29 else 28
  | 4 | 6 | 9 | 11 => 30
  | _ => 31

theorem daysIn_le (year : Int) (month : Nat) : daysIn year month ≤ 31 := by
  unfold daysIn
  split
  · split <;> decide
  all_goals decide

namespace Date

structure IsValid (date : Date) : Prop where
  month_pos : 1 ≤ date.month
  month_le : date.month ≤ 12
  day_pos : 1 ≤ date.day
  day_le : date.day ≤ daysIn date.year date.month

instance (date : Date) : Decidable date.IsValid :=
  decidable_of_iff (1 ≤ date.month ∧ date.month ≤ 12 ∧ 1 ≤ date.day ∧
      date.day ≤ daysIn date.year date.month)
    ⟨fun ⟨h₁, h₂, h₃, h₄⟩ => ⟨h₁, h₂, h₃, h₄⟩, fun ⟨h₁, h₂, h₃, h₄⟩ => ⟨h₁, h₂, h₃, h₄⟩⟩

def next (date : Date) : Date :=
  if date.day < daysIn date.year date.month then { date with day := date.day + 1 }
  else if date.month < 12 then ⟨date.year, date.month + 1, 1⟩
  else ⟨date.year + 1, 1, 1⟩

/-- A day of a cycle of four hundred years, by the century, the four years in it, the year of these
and the day of that year. Only the last of four years has a day more, unless it ends a century that
is not the last of the cycle. -/
structure InCycle (century quad year day : Nat) : Prop where
  century_lt : century < 4
  quad_lt : quad < 25
  year_lt : year < 4
  day_le : day ≤ 365
  leap_of_eq : day = 365 → year = 3 ∧ (quad < 24 ∨ century = 3)

theorem yearOfCycle_eq {century quad year day : Nat} (h : InCycle century quad year day) :
    yearOfCycle (36524 * century + 1461 * quad + 365 * year + day) =
      (100 * century + 4 * quad + year, day) := by
  obtain ⟨hcentury, hquad, hyear, hday, hleap⟩ := h
  have hcut : min ((36524 * century + 1461 * quad + 365 * year + day) / 36524) 3 = century := by
    omega
  have hin : 36524 * century + 1461 * quad + 365 * year + day - 36524 * century =
      1461 * quad + (365 * year + day) := by omega
  have hquad' : (1461 * quad + (365 * year + day)) / 1461 = quad := by omega
  have hrest : (1461 * quad + (365 * year + day)) % 1461 = 365 * year + day := by omega
  have hyear' : min ((365 * year + day) / 365) 3 = year := by omega
  rw [yearOfCycle, hcut, hin, hquad', hrest, hyear', Nat.add_sub_cancel_left]

theorem exists_inCycle {day : Nat} (h : day < 146097) : ∃ century quad year dayOfYear,
    InCycle century quad year dayOfYear ∧
      day = 36524 * century + 1461 * quad + 365 * year + dayOfYear := by
  obtain ⟨century, hcentury⟩ : ∃ century, century = min (day / 36524) 3 := ⟨_, rfl⟩
  obtain ⟨rest, hrest⟩ : ∃ rest, rest = day - 36524 * century := ⟨_, rfl⟩
  obtain ⟨year, hyear⟩ : ∃ year, year = min (rest % 1461 / 365) 3 := ⟨_, rfl⟩
  refine ⟨century, rest / 1461, year, rest % 1461 - 365 * year, ⟨?_, ?_, ?_, ?_, ?_⟩, ?_⟩ <;>
    omega

def daysBeforeYear (year : Int) : Int := 365 * year + year / 4 - year / 100 + year / 400

theorem daysBeforeYear_eq {century quad year day : Nat} (h : InCycle century quad year day)
    (cycle : Int) : daysBeforeYear (400 * cycle + (100 * century + 4 * quad + year : Nat)) =
      146097 * cycle + (36524 * century + 1461 * quad + 365 * year : Nat) := by
  obtain ⟨hcentury, hquad, hyear, -, -⟩ := h
  rw [daysBeforeYear]
  omega

def InYear (year : Int) (day : Nat) : Prop := day ≤ 365 ∧ (day = 365 → IsLeap (year + 1))

theorem InCycle.inYear {century quad year day : Nat} (h : InCycle century quad year day)
    (cycle : Int) : InYear (400 * cycle + (100 * century + 4 * quad + year : Nat)) day := by
  obtain ⟨hcentury, hquad, hyear, hday, hleap⟩ := h
  refine ⟨hday, fun hlast => ?_⟩
  obtain ⟨rfl, hend⟩ := hleap hlast
  unfold IsLeap
  omega

theorem exists_inCycle_of_inYear {year : Int} {day : Nat} (h : InYear year day) :
    ∃ cycle : Int, ∃ century quad yearOfQuad, InCycle century quad yearOfQuad day ∧
      year = 400 * cycle + (100 * century + 4 * quad + yearOfQuad : Nat) := by
  obtain ⟨hday, hleap⟩ := h
  refine ⟨year / 400, (year % 400).toNat / 100, (year % 400).toNat % 100 / 4,
    (year % 400).toNat % 4, ⟨by omega, by omega, by omega, hday, fun hlast => ?_⟩, by omega⟩
  have hyear := hleap hlast
  unfold IsLeap at hyear
  omega

theorem ofDay_eq {year : Int} {day : Nat} (h : InYear year day) :
    ofDay (daysBeforeYear year + day - epochShift) = ofMarchYear year day := by
  obtain ⟨cycle, century, quad, yearOfQuad, hcycle, rfl⟩ := exists_inCycle_of_inYear h
  have hshift : daysBeforeYear (400 * cycle + (100 * century + 4 * quad + yearOfQuad : Nat)) +
      day - epochShift + epochShift =
        146097 * cycle + (36524 * century + 1461 * quad + 365 * yearOfQuad + day : Nat) := by
    rw [daysBeforeYear_eq hcycle]
    omega
  have hbound : 36524 * century + 1461 * quad + 365 * yearOfQuad + day < 146097 := by
    obtain ⟨hcentury, hquad, hyear, hday, hleap⟩ := hcycle
    omega
  have hdiv : (146097 * cycle + (36524 * century + 1461 * quad + 365 * yearOfQuad + day : Nat)) /
      146097 = cycle := by omega
  have hmod : ((146097 * cycle +
      (36524 * century + 1461 * quad + 365 * yearOfQuad + day : Nat)) % 146097).toNat =
        36524 * century + 1461 * quad + 365 * yearOfQuad + day := by omega
  rw [ofDay, hshift, hdiv, hmod, yearOfCycle_eq hcycle]

theorem exists_inYear (day : Int) : ∃ (year : Int) (dayOfYear : Nat), InYear year dayOfYear ∧
    day = daysBeforeYear year + dayOfYear - epochShift := by
  have hbound : ((day + epochShift) % 146097).toNat < 146097 := by omega
  obtain ⟨century, quad, year, dayOfYear, hcycle, hday⟩ := exists_inCycle hbound
  refine ⟨_, dayOfYear, hcycle.inYear ((day + epochShift) / 146097), ?_⟩
  rw [daysBeforeYear_eq hcycle]
  omega

section March

variable {year : Int} {day : Nat}

def marchMonth (day : Nat) : Nat := (5 * day + 2) / 153

theorem marchMonth_lt (h : day ≤ 365) : marchMonth day < 12 := by
  unfold marchMonth
  omega

theorem daysBefore_marchMonth_le (day : Nat) : daysBefore (marchMonth day) ≤ day := by
  unfold daysBefore marchMonth
  omega

theorem lt_daysBefore_marchMonth (day : Nat) : day < daysBefore (marchMonth day + 1) := by
  unfold daysBefore marchMonth
  omega

theorem marchMonth_eq {month : Nat} (hle : daysBefore month ≤ day)
    (hlt : day < daysBefore (month + 1)) : marchMonth day = month := by
  unfold daysBefore at hle hlt
  unfold marchMonth
  omega

theorem ofMarchYear_of_lt (h : marchMonth day < 10) : ofMarchYear year day =
    ⟨year, marchMonth day + 3, day - daysBefore (marchMonth day) + 1⟩ := if_pos h

theorem ofMarchYear_of_le (h : 10 ≤ marchMonth day) : ofMarchYear year day =
    ⟨year + 1, marchMonth day - 9, day - daysBefore (marchMonth day) + 1⟩ :=
  if_neg (Nat.not_lt.mpr h)

theorem toDay_eq {date : Date} {month : Nat} (h : date.marchYear = (year, month)) :
    date.toDay = daysBeforeYear year + (daysBefore month + date.day - 1 : Nat) - epochShift := by
  rw [toDay, h]
  rfl

theorem toDay_ofMarchYear (h : day ≤ 365) :
    (ofMarchYear year day).toDay = daysBeforeYear year + day - epochShift := by
  have hmonth := marchMonth_lt h
  have hbefore := daysBefore_marchMonth_le day
  have hday : daysBefore (marchMonth day) + (day - daysBefore (marchMonth day) + 1) - 1 = day := by
    omega
  rcases Nat.lt_or_ge (marchMonth day) 10 with hspring | hwinter
  · have hmarch : (ofMarchYear year day).marchYear = (year, marchMonth day) := by
      rw [ofMarchYear_of_lt hspring, marchYear, if_neg (Nat.not_lt.mpr (Nat.le_add_left 3 _))]
      rfl
    rw [toDay_eq hmarch, ofMarchYear_of_lt hspring, hday]
  · have hmarch : (ofMarchYear year day).marchYear = (year, marchMonth day) := by
      rw [ofMarchYear_of_le hwinter, marchYear, if_pos (show marchMonth day - 9 < 3 by omega),
        Int.add_sub_cancel, Nat.sub_add_cancel (by omega)]
    rw [toDay_eq hmarch, ofMarchYear_of_le hwinter, hday]

theorem isValid_ofMarchYear (h : InYear year day) : (ofMarchYear year day).IsValid := by
  obtain ⟨hday, hleap⟩ := h
  have hmonth := marchMonth_lt hday
  have hle := daysBefore_marchMonth_le day
  have hlt := lt_daysBefore_marchMonth day
  rcases Nat.lt_or_ge (marchMonth day) 10 with hspring | hwinter
  · rw [ofMarchYear_of_lt hspring]
    generalize marchMonth day = month at *
    have hmonth' : month + 3 ≤ 12 := by omega
    refine ⟨Nat.le_add_left 1 _, hmonth', Nat.le_add_left 1 _, ?_⟩
    unfold daysBefore at *
    interval_cases month <;> simp only [daysIn] <;> omega
  · rw [ofMarchYear_of_le hwinter]
    have hpos : 1 ≤ marchMonth day - 9 := by omega
    have hle' : marchMonth day - 9 ≤ 12 := by omega
    refine ⟨hpos, hle', Nat.le_add_left 1 _, ?_⟩
    rcases show marchMonth day = 10 ∨ marchMonth day = 11 by omega with hjanuary | hfebruary
    · rw [hjanuary] at hle hlt ⊢
      simp only [daysBefore, daysIn] at *
      omega
    · rw [hfebruary] at hle ⊢
      by_cases hyear : IsLeap (year + 1)
      · simp only [daysBefore, daysIn, if_pos hyear] at *
        omega
      · have hlast : day ≠ 365 := fun h => hyear (hleap h)
        simp only [daysBefore, daysIn, if_neg hyear] at *
        omega

theorem ofMarchYear_daysBefore {month dayOfMonth : Nat} (hpos : 1 ≤ dayOfMonth)
    (hlt : daysBefore month + dayOfMonth ≤ daysBefore (month + 1)) :
    ofMarchYear year (daysBefore month + dayOfMonth - 1) =
      if month < 10 then ⟨year, month + 3, dayOfMonth⟩ else ⟨year + 1, month - 9, dayOfMonth⟩ := by
  have hmonth : marchMonth (daysBefore month + dayOfMonth - 1) = month :=
    marchMonth_eq (by omega) (by omega)
  have hday : daysBefore month + dayOfMonth - 1 - daysBefore month + 1 = dayOfMonth := by omega
  split
  · next hspring =>
    rw [ofMarchYear_of_lt (by omega), hmonth, hday]
  · next hwinter =>
    rw [ofMarchYear_of_le (by omega), hmonth, hday]

end March

theorem daysIn_february (year : Int) : daysIn year 2 = if IsLeap year then 29 else 28 := rfl

theorem IsValid.eq_ofMarchYear {date : Date} (h : date.IsValid) :
    ∃ year day, InYear year day ∧ ofMarchYear year day = date := by
  obtain ⟨year, month, day⟩ := date
  obtain ⟨hmonth, hmonth', hday, hday'⟩ := h
  dsimp only at *
  rcases show month = 1 ∨ month = 2 ∨ 3 ≤ month by omega with rfl | rfl | hspring
  · have hlength : daysBefore 10 + day ≤ daysBefore 11 := Nat.add_le_add_left hday' 306
    refine ⟨year - 1, daysBefore 10 + day - 1, ?_, ?_⟩
    · unfold InYear daysBefore at *
      omega
    · rw [ofMarchYear_daysBefore hday hlength, if_neg (by decide), Int.sub_add_cancel]
  · rw [daysIn_february] at hday'
    have hlength : daysBefore 11 + day ≤ daysBefore 12 := by
      have hday'' : day ≤ 29 := by split at hday' <;> omega
      exact Nat.add_le_add_left (Nat.le_succ_of_le hday'') 337
    refine ⟨year - 1, daysBefore 11 + day - 1, ?_, ?_⟩
    · rw [InYear, Int.sub_add_cancel]
      unfold daysBefore
      split at hday'
      · next hleap => exact ⟨by omega, fun _ => hleap⟩
      · exact ⟨by omega, fun hlast => absurd hlast (by omega)⟩
    · rw [ofMarchYear_daysBefore hday hlength, if_neg (by decide), Int.sub_add_cancel]
  · obtain ⟨month, rfl⟩ := Nat.exists_eq_add_of_le' hspring
    have hlength : daysBefore month + day ≤ daysBefore (month + 1) := by
      have hmonth : month ≤ 9 := by omega
      interval_cases month <;> simp only [daysBefore, daysIn] at * <;> omega
    refine ⟨year, daysBefore month + day - 1, ?_, ?_⟩
    · unfold InYear daysBefore at *
      omega
    · rw [ofMarchYear_daysBefore hday hlength, if_pos (by omega)]

theorem isValid_ofDay (day : Int) : (ofDay day).IsValid := by
  obtain ⟨year, dayOfYear, hyear, rfl⟩ := exists_inYear day
  rw [ofDay_eq hyear]
  exact isValid_ofMarchYear hyear

theorem toDay_ofDay (day : Int) : (ofDay day).toDay = day := by
  obtain ⟨year, dayOfYear, hyear, rfl⟩ := exists_inYear day
  rw [ofDay_eq hyear, toDay_ofMarchYear hyear.1]

theorem ofDay_toDay {date : Date} (h : date.IsValid) : ofDay date.toDay = date := by
  obtain ⟨year, day, hyear, rfl⟩ := h.eq_ofMarchYear
  rw [toDay_ofMarchYear hyear.1, ofDay_eq hyear]

theorem isValid_next {date : Date} (h : date.IsValid) : date.next.IsValid := by
  obtain ⟨hmonth, hmonth', hday, hday'⟩ := h
  have hfirst (year : Int) {month : Nat} (hpos : 1 ≤ month) (hle : month ≤ 12) :
      IsValid ⟨year, month, 1⟩ := by
    refine ⟨hpos, hle, Nat.le_refl 1, ?_⟩
    dsimp only at *
    interval_cases month <;> simp only [daysIn] <;> first | omega | split <;> omega
  rw [next]
  split
  · next hmore => exact ⟨hmonth, hmonth', Nat.le_add_left 1 _, hmore⟩
  · split
    · next hmore => exact hfirst _ (Nat.le_add_left 1 _) hmore
    · exact hfirst _ (Nat.le_refl 1) (by decide)

theorem daysBeforeYear_succ (year : Int) :
    daysBeforeYear year = daysBeforeYear (year - 1) + if IsLeap year then 366 else 365 := by
  unfold daysBeforeYear
  by_cases hleap : IsLeap year
  · rw [if_pos hleap]
    unfold IsLeap at hleap
    omega
  · rw [if_neg hleap]
    unfold IsLeap at hleap
    omega

theorem daysBefore_succ (year : Int) {month : Nat} (hmonth : 1 ≤ month) (hmonth' : month ≤ 12)
    (h : month ≠ 2) : daysBefore ((month + 9) % 12 + 1) =
      daysBefore ((month + 9) % 12) + daysIn year month := by
  interval_cases month <;> first | rfl | exact absurd rfl h

theorem marchYear_eq {year : Int} {month day : Nat} (hmonth : 1 ≤ month) (hmonth' : month ≤ 12) :
    marchYear ⟨year, month, day⟩ = (if month < 3 then year - 1 else year, (month + 9) % 12) := by
  rw [marchYear]
  dsimp only
  split
  · rw [Nat.mod_eq_of_lt (by omega)]
  · rw [show month + 9 = month - 3 + 12 by omega, Nat.add_mod_right, Nat.mod_eq_of_lt (by omega)]

theorem toDay_next {date : Date} (h : date.IsValid) : date.next.toDay = date.toDay + 1 := by
  obtain ⟨year, month, day⟩ := date
  obtain ⟨hmonth, hmonth', hday, hday'⟩ := h
  dsimp only at *
  rw [next, toDay_eq (marchYear_eq hmonth hmonth')]
  dsimp only
  split
  · rw [toDay_eq (marchYear_eq hmonth hmonth')]
    dsimp only
    omega
  · next hlast =>
    obtain rfl : day = daysIn year month := by omega
    by_cases hfebruary : month = 2
    · -- The year that begins in March ends.
      subst hfebruary
      have hmarch : marchYear ⟨year, 3, 1⟩ = (year, 0) := rfl
      have hbefore : daysBefore ((2 + 9) % 12) = 337 := rfl
      have hbefore' : daysBefore 0 = 0 := rfl
      have hyear := daysBeforeYear_succ year
      have hlength := daysIn_february year
      rw [if_pos (show 2 < 12 by decide), if_pos (show 2 < 3 by decide), toDay_eq hmarch, hbefore,
        hbefore']
      dsimp only
      by_cases hleap : IsLeap year
      · rw [if_pos hleap] at hyear hlength
        omega
      · rw [if_neg hleap] at hyear hlength
        omega
    · have hlength := daysBefore_succ year hmonth hmonth' hfebruary
      by_cases hdecember : month = 12
      · subst hdecember
        have hjanuary : marchYear ⟨year + 1, 1, 1⟩ = (year, (12 + 9) % 12 + 1) :=
          congrArg (·, 10) (Int.add_sub_cancel year 1)
        rw [if_neg (show ¬12 < 12 by decide), if_neg (show ¬12 < 3 by decide), toDay_eq hjanuary,
          hlength]
        dsimp only
        omega
      · have hmarch : marchYear ⟨year, month + 1, 1⟩ =
            (if month < 3 then year - 1 else year, (month + 9) % 12 + 1) := by
          rw [marchYear_eq (Nat.le_add_left 1 month) (by omega)]
          congr 1
          · exact if_congr (by omega) rfl rfl
          · omega
        rw [if_pos (show month < 12 by omega), toDay_eq hmarch, hlength]
        dsimp only
        omega

theorem ofDay_zero : ofDay 0 = ⟨1970, 1, 1⟩ := by decide

/-- Days and dates go on together. -/
theorem ofDay_succ (day : Int) : ofDay (day + 1) = (ofDay day).next := by
  have hvalid := isValid_ofDay day
  rw [← ofDay_toDay (isValid_next hvalid), toDay_next hvalid, toDay_ofDay]

theorem toDay_january (year : Int) :
    toDay ⟨year, 1, 1⟩ = daysBeforeYear (year - 1) + 306 - epochShift := by
  have hmarch : marchYear ⟨year, 1, 1⟩ = (year - 1, 10) := rfl
  exact toDay_eq hmarch

theorem toDay_january_mono {year year' : Int} (h : year ≤ year') :
    toDay ⟨year, 1, 1⟩ ≤ toDay ⟨year', 1, 1⟩ := by
  rw [toDay_january, toDay_january]
  unfold daysBeforeYear
  omega

theorem IsValid.toDay_bounds {date : Date} (h : date.IsValid) :
    toDay ⟨date.year, 1, 1⟩ ≤ date.toDay ∧ date.toDay < toDay ⟨date.year + 1, 1, 1⟩ := by
  obtain ⟨year, month, day⟩ := date
  obtain ⟨hmonth, hmonth', hday, hday'⟩ := h
  dsimp only at *
  have hlong := hday'.trans (daysIn_le year month)
  have hyear := daysBeforeYear_succ year
  have hleap : 365 ≤ (if IsLeap year then 366 else 365 : Int) := by split <;> decide
  rw [toDay_january, toDay_january, Int.add_sub_cancel, toDay_eq (marchYear_eq hmonth hmonth')]
  dsimp only
  split
  · next hwinter =>
    have hmod : (month + 9) % 12 = month + 9 := Nat.mod_eq_of_lt (by omega)
    rw [hmod]
    unfold daysBefore
    omega
  · next hspring =>
    have hlength := daysBefore_succ year hmonth hmonth' (by omega)
    have hend : daysBefore ((month + 9) % 12 + 1) ≤ 306 := by
      unfold daysBefore
      omega
    omega

theorem le_year_ofDay_iff (year day : Int) :
    year ≤ (ofDay day).year ↔ toDay ⟨year, 1, 1⟩ ≤ day := by
  obtain ⟨hlower, hupper⟩ := (isValid_ofDay day).toDay_bounds
  rw [toDay_ofDay] at hlower hupper
  constructor
  · exact fun hle => (toDay_january_mono hle).trans hlower
  · intro hle
    by_contra hlt
    have hmono := toDay_january_mono (Int.add_one_le_of_lt (Int.not_le.mp hlt))
    omega

end Date

end Gatehouse.Calendar
