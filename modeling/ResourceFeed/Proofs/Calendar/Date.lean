import ResourceFeed.Calendar.Date
import Mathlib.Tactic.IntervalCases

/-! # Dates and their numbers

    The date with a number is a date of the calendar, but for the bounds of
    the years, and it has this number.  Its year is the last one that has
    begun.

    The calendar repeats itself after an era of 400 years, and years are
    counted from March.  A day of an era lies in a century of 36524 days or is
    the last day of the era; a day of a century lies in a group of 1461 days,
    which are four years of which only the last one may have a 29th of
    February.
-/

namespace ResourceFeed.Calendar

/-- The days of an era before a year of it. -/
def daysBefore (year : Int) : Int :=
  365 * year + year / 4 - year / 100 + year / 400

/-- The year of an era that a day of the era falls into. -/
def yearOfEra (day : Int) : Int :=
  (day - day / 1460 + day / 36524 - day / 146096) / 365

section eras
variable {century group year : Int}

/-- The days before a year of a group of four years, in a century. -/
theorem daysBefore_of_parts (hcentury : 0 ≤ century ∧ century ≤ 3) (hgroup : 0 ≤ group ∧ group ≤ 24)
    (hyear : 0 ≤ year ∧ year ≤ 3) :
    daysBefore (100 * century + 4 * group + year) =
      36524 * century + 1461 * group + 365 * year := by
  have hfours : (100 * century + 4 * group + year) / 4 = 25 * century + group := by omega
  have hhundreds : (100 * century + 4 * group + year) / 100 = century := by omega
  have heras : (100 * century + 4 * group + year) / 400 = 0 := by omega
  rw [daysBefore, hfours, hhundreds, heras]
  omega

/-- The last year of a group has 366 days, unless it is the last one of a century. -/
theorem le_daysBefore_group (hcentury : 0 ≤ century ∧ century ≤ 3)
    (hgroup : 0 ≤ group ∧ group ≤ 24) :
    36524 * century + 1461 * group + (if group = 24 then 1460 else 1461) ≤
      daysBefore (100 * century + 4 * group + 4) := by
  by_cases hlast : group = 24
  · subst hlast
    have hfours : (100 * century + 4 * 24 + 4) / 4 = 25 * century + 25 := by omega
    have hhundreds : (100 * century + 4 * 24 + 4) / 100 = century + 1 := by omega
    have heras : 0 ≤ (100 * century + 4 * 24 + 4) / 400 := by omega
    rw [daysBefore, hfours, hhundreds, if_pos rfl]
    omega
  · have hnext := daysBefore_of_parts hcentury (show 0 ≤ group + 1 ∧ group + 1 ≤ 24 by omega)
      (show (0 : Int) ≤ 0 ∧ (0 : Int) ≤ 3 by decide)
    have hsame : 100 * century + 4 * group + 4 = 100 * century + 4 * (group + 1) + 0 := by omega
    rw [hsame, hnext, if_neg hlast]
    omega

end eras

/-- Every day of an era falls into the year that it is computed to fall into. -/
theorem yearOfEra_spec {day : Int} (hfrom : 0 ≤ day) (hto : day ≤ 146096) :
    (0 ≤ yearOfEra day ∧ yearOfEra day ≤ 399) ∧
      daysBefore (yearOfEra day) ≤ day ∧ day < daysBefore (yearOfEra day + 1) := by
  by_cases hlast : day = 146096
  · subst hlast
    decide
  -- the century of the day, its group of four years, and its place in that group
  obtain ⟨century, hcentury⟩ : ∃ century, century = day / 36524 := ⟨_, rfl⟩
  obtain ⟨group, hgroup⟩ : ∃ group, group = day % 36524 / 1461 := ⟨_, rfl⟩
  obtain ⟨place, hplace⟩ : ∃ place, place = day % 36524 % 1461 := ⟨_, rfl⟩
  have hday : day = 36524 * century + 1461 * group + place := by omega
  have hcenturies : 0 ≤ century ∧ century ≤ 3 := by omega
  have hgroups : 0 ≤ group ∧ group ≤ 24 := by omega
  have hplaces : 0 ≤ place ∧ place ≤ 1460 ∧ (group = 24 → place ≤ 1459) := by omega
  -- a quotient by 1460 counts groups, and is one too large near the end of a group
  obtain ⟨extra, hextra⟩ : ∃ extra, extra = (24 * century + group + place) / 1460 := ⟨_, rfl⟩
  have hquotient : day / 1460 = 25 * century + group + extra := by omega
  have hera : day / 146096 = 0 := by omega
  clear hgroup hplace
  have hextras : (extra = 0 ∧ place ≤ 1459) ∨ (extra = 1 ∧ 1364 ≤ place) := by omega
  obtain ⟨year, hyear⟩ : ∃ year, year = (place - extra) / 365 := ⟨_, rfl⟩
  have hyears : 0 ≤ year ∧ year ≤ 3 ∧ 365 * year ≤ place ∧
      (place < 365 * year + 365 ∨ place = 1460 ∧ year = 3) := by omega
  have hyearOfEra : yearOfEra day = 100 * century + 4 * group + year := by
    rw [yearOfEra, hquotient, ← hcentury, hera]
    omega
  have hbefore := daysBefore_of_parts hcenturies hgroups ⟨hyears.1, hyears.2.1⟩
  rw [hyearOfEra, hbefore]
  refine ⟨by omega, by omega, ?_⟩
  by_cases hlastYear : year = 3
  · have hafter := le_daysBefore_group hcenturies hgroups
    rw [hlastYear, show 100 * century + 4 * group + 3 + 1 = 100 * century + 4 * group + 4 by omega]
    split at hafter <;> omega
  · have hafter := daysBefore_of_parts hcenturies hgroups
      (show 0 ≤ year + 1 ∧ year + 1 ≤ 3 by omega)
    rw [show 100 * century + 4 * group + year + 1 = 100 * century + 4 * group + (year + 1) by omega,
      hafter]
    omega

namespace Date

/-- The date of a day of a year that is counted from March, with the year that it belongs to. -/
def ofDay (year dayOfYear : Int) : Date :=
  let monthFromMarch := (5 * dayOfYear + 2) / 153
  let month := if monthFromMarch < 10 then monthFromMarch + 3 else monthFromMarch - 9
  ⟨year + (if month ≤ 2 then 1 else 0), month.toNat,
    (dayOfYear - (153 * monthFromMarch + 2) / 5 + 1).toNat⟩

/-- The date with a number, by its year counted from March. -/
theorem ofNumber_eq (number : Int) :
    ∃ era year dayOfYear : Int, (0 ≤ year ∧ year ≤ 399) ∧ (0 ≤ dayOfYear ∧ dayOfYear ≤ 365) ∧
      (dayOfYear = 365 → isLeapYear (year + era * 400 + 1) = true) ∧
      number + 719468 = era * 146097 + (365 * year + year / 4 - year / 100) + dayOfYear ∧
      ofNumber number = ofDay (year + era * 400) dayOfYear := by
  obtain ⟨era, hera⟩ : ∃ era, era = (number + 719468) / 146097 := ⟨_, rfl⟩
  obtain ⟨dayOfEra, hday⟩ : ∃ day, day = (number + 719468) % 146097 := ⟨_, rfl⟩
  obtain ⟨year, hyear⟩ : ∃ year, year = yearOfEra dayOfEra := ⟨_, rfl⟩
  obtain ⟨hyears, hbefore, hafter⟩ :=
    yearOfEra_spec (show 0 ≤ dayOfEra by omega) (show dayOfEra ≤ 146096 by omega)
  rw [← hyear] at hyears hbefore hafter
  unfold daysBefore at hbefore hafter
  have hnumber : number + 719468 = era * 146097 + dayOfEra := by omega
  refine ⟨era, year, dayOfEra - (365 * year + year / 4 - year / 100), hyears, ?_, ?_, ?_, ?_⟩
  · clear hera hday hyear hnumber
    omega
  · intro hlast
    have hleap : (year + 1) % 4 = 0 ∧ ((year + 1) % 100 ≠ 0 ∨ (year + 1) % 400 = 0) := by
      clear hera hday hyear hnumber
      omega
    simp only [isLeapYear, Bool.and_eq_true, Bool.or_eq_true, beq_iff_eq, bne_iff_ne]
    omega
  · omega
  · rw [ofNumber, ofDay, hyear, yearOfEra, hday, hera]

section ofDay
variable {year dayOfYear : Int} (hday : 0 ≤ dayOfYear ∧ dayOfYear ≤ 365)

include hday

theorem monthFromMarch_le : 0 ≤ (5 * dayOfYear + 2) / 153 ∧ (5 * dayOfYear + 2) / 153 ≤ 11 := by
  omega

/-- The day is one of its month, if a 29th of February belongs to a leap year. -/
theorem day_ofDay (hleap : dayOfYear = 365 → isLeapYear (year + 1) = true) :
    1 ≤ (ofDay year dayOfYear).day ∧
      (ofDay year dayOfYear).day ≤
        daysInMonth (ofDay year dayOfYear).year (ofDay year dayOfYear).month := by
  obtain ⟨month, hmonth⟩ : ∃ month, month = (5 * dayOfYear + 2) / 153 := ⟨_, rfl⟩
  have hmonths := monthFromMarch_le hday
  rw [← hmonth] at hmonths
  unfold ofDay
  simp only
  rw [← hmonth]
  refine ⟨by omega, ?_⟩
  obtain ⟨hfirst, hlast⟩ := hmonths
  by_cases hfebruary : month = 11
  · -- the 29th is the last day of the year
    rw [hfebruary] at hmonth ⊢
    show _ ≤ (if isLeapYear (year + 1) then 29 else 28)
    by_cases hend : dayOfYear = 365
    · rw [hleap hend, if_pos rfl]
      omega
    · split <;> omega
  · interval_cases month <;> simp [daysInMonth] <;> omega

/-- It has the number of its day. -/
theorem number_ofDay :
    (ofDay year dayOfYear).number =
      year / 400 * 146097 + (365 * (year % 400) + year % 400 / 4 - year % 400 / 100) + dayOfYear -
        719468 := by
  obtain ⟨month, hmonth⟩ : ∃ month, month = (5 * dayOfYear + 2) / 153 := ⟨_, rfl⟩
  have hmonths := monthFromMarch_le hday
  rw [← hmonth] at hmonths
  have hmonthBack : ((ofDay year dayOfYear).month + 9 : Int) % 12 = month := by
    unfold ofDay
    simp only
    rw [← hmonth]
    split <;> omega
  have hyearBack : (if (ofDay year dayOfYear).month ≤ 2 then (ofDay year dayOfYear).year - 1
      else (ofDay year dayOfYear).year) = year := by
    unfold ofDay
    simp only
    rw [← hmonth]
    by_cases hspring : month < 10
    · simp only [if_pos hspring]
      rw [if_neg (by omega), if_neg (by omega)]
      omega
    · simp only [if_neg hspring]
      rw [if_pos (by omega), if_pos (by omega)]
      omega
  have hdayBack : (153 * month + 2) / 5 + ((ofDay year dayOfYear).day : Int) - 1 = dayOfYear := by
    unfold ofDay
    simp only
    rw [← hmonth]
    omega
  unfold number
  simp only [hmonthBack, hyearBack, hdayBack]
  omega

end ofDay

/-- The date with a number has the number. -/
theorem number_ofNumber (number : Int) : (ofNumber number).number = number := by
  obtain ⟨era, year, dayOfYear, hyear, hday, -, hnumber, hdate⟩ := ofNumber_eq number
  have hera : (year + era * 400) / 400 = era := by omega
  have hyearOfEra : (year + era * 400) % 400 = year := by omega
  rw [hdate, number_ofDay hday, hera, hyearOfEra]
  omega

/-- It is a date of the calendar if its year is. -/
theorem isValid_ofNumber {number : Int} (hfirst : firstYear ≤ (ofNumber number).year)
    (hlast : (ofNumber number).year ≤ lastYear) : (ofNumber number).isValid = true := by
  obtain ⟨era, year, dayOfYear, -, hday, hleap, -, hdate⟩ := ofNumber_eq number
  obtain ⟨hfrom, hto⟩ := day_ofDay hday hleap
  rw [← hdate] at hfrom hto
  simp only [isValid, Bool.and_eq_true, decide_eq_true_eq]
  exact ⟨⟨⟨hfirst, hlast⟩, hfrom⟩, hto⟩

/-- A date of the calendar has a month and a day of two digits at most. -/
theorem bounds_of_isValid {date : Date} (hvalid : date.isValid = true) :
    date.month ≤ 12 ∧ date.day ≤ 31 := by
  simp only [isValid, Bool.and_eq_true, decide_eq_true_eq] at hvalid
  obtain ⟨⟨-, hfrom⟩, hto⟩ := hvalid
  unfold daysInMonth at hto
  split at hto
  any_goals omega
  split at hto <;> omega

/-! ### Years and numbers -/

/-- The first day of a year is day 306 of the year that begins in the March before. -/
theorem number_newYear (year : Int) :
    (Date.mk year 1 1).number = daysBefore (year - 1) + 306 - 719468 := by
  unfold number daysBefore
  simp only
  omega

/-- A year has at least 365 days. -/
theorem daysBefore_lt {year later : Int} (h : year < later) :
    daysBefore year + 365 ≤ daysBefore later := by
  unfold daysBefore
  omega

/-- A day with a number is one of a year that begins in March, and falls into the next year if it is
    not before January. -/
theorem exists_marchYear (number : Int) :
    ∃ year, daysBefore year ≤ number + 719468 ∧ number + 719468 < daysBefore (year + 1) ∧
      (ofNumber number).year =
        year + (if daysBefore year + 306 ≤ number + 719468 then 1 else 0) := by
  obtain ⟨era, yearOfEra, day, hyear, hday, hleap, hnumber, hdate⟩ := ofNumber_eq number
  have hbefore : daysBefore (yearOfEra + era * 400) =
      era * 146097 + (365 * yearOfEra + yearOfEra / 4 - yearOfEra / 100) := by
    unfold daysBefore
    omega
  refine ⟨yearOfEra + era * 400, by omega, ?_, ?_⟩
  · by_cases hlast : day = 365
    · have hlong := hleap hlast
      simp only [isLeapYear, Bool.and_eq_true, Bool.or_eq_true, beq_iff_eq, bne_iff_ne] at hlong
      have hnext : daysBefore (yearOfEra + era * 400) + 366 ≤
          daysBefore (yearOfEra + era * 400 + 1) := by
        clear hbefore hnumber hdate
        unfold daysBefore
        omega
      omega
    · have hnext := daysBefore_lt (show yearOfEra + era * 400 < yearOfEra + era * 400 + 1 by omega)
      omega
  · rw [hdate, ofDay]
    simp only
    omega

/-- The year of a date is the last one that has begun. -/
theorem le_year_ofNumber_iff (year number : Int) :
    year ≤ (ofNumber number).year ↔ (Date.mk year 1 1).number ≤ number := by
  obtain ⟨marchYear, hfrom, hto, hyear⟩ := exists_marchYear number
  rw [hyear, number_newYear]
  rcases Int.lt_trichotomy marchYear (year - 1) with hless | hsame | hmore
  · -- the year begins after the March that ends this one
    have hbegins : daysBefore (marchYear + 1) ≤ daysBefore (year - 1) := by
      rcases Int.lt_or_eq_of_le (show marchYear + 1 ≤ year - 1 by omega) with hlt | heq
      · have := daysBefore_lt hlt
        omega
      · rw [heq]
    split <;> omega
  · rw [← hsame]
    split <;> omega
  · have hbegins := daysBefore_lt hmore
    split <;> omega

end Date

end ResourceFeed.Calendar
