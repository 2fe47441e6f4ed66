import CriteriaQuery.Time.Calendar
import Mathlib.Order.Monotone.Basic
import Mathlib.Tactic.IntervalCases

namespace CriteriaQuery.Date

/-! The calendar gives each day one date, and the day after it the next date. A
date is computed from its day in parts, and each part is told by the day on
which it begins: the era, the year of the era, the month of the year. -/

/-! ## Years of an era -/

/-- Days from the beginning of an era, with the leap days among them left out. -/
def commonDays (day : Int) : Int := day - day / 1460 + day / 36524 - day / 146096

theorem commonDays_mono {day later : Int} (ordered : day ≤ later) :
    commonDays day ≤ commonDays later := by
  refine monotone_int_of_le_succ (fun day => ?_) ordered
  unfold commonDays
  omega

theorem commonDays_daysBeforeYear {year : Int} (low : 0 ≤ year)
    (high : year < 400) : commonDays (daysBeforeYear year) = 365 * year := by
  unfold commonDays daysBeforeYear
  have years : (365 * year + year / 4 - year / 100) / 1460 = year / 4 := by omega
  have centuries : (365 * year + year / 4 - year / 100) / 36524 =
    year / 100 := by omega
  omega

theorem commonDays_last {year : Int} (low : 0 < year) (high : year ≤ 400) :
    commonDays (daysBeforeYear year - 1) < 365 * year := by
  unfold commonDays daysBeforeYear
  have years : (365 * year + year / 4 - year / 100 - 1) / 1460 =
    year / 4 := by omega
  have centuries : (365 * year + year / 4 - year / 100 - 1) / 36524 ≤
    year / 100 := by omega
  omega

theorem commonDays_le {day : Int} (ends : day < daysPerEra) :
    commonDays day ≤ 145999 := by
  have last : commonDays 146096 = 145999 := by decide
  rw [← last]
  refine commonDays_mono ?_
  unfold daysPerEra at ends
  omega

/-- Which year of an era a day is in, told by the days on which years begin. -/
theorem le_commonDays_div_iff {year day : Int} (low : 0 ≤ year)
    (high : year < 400) (begun : 0 ≤ day) :
    year ≤ commonDays day / 365 ↔ daysBeforeYear year ≤ day := by
  rw [Int.le_ediv_iff_mul_le (by decide), Int.mul_comm]
  constructor
  · intro reached
    by_contra earlier
    have zero : daysBeforeYear 0 = 0 := by decide
    have positive : 0 < year := by
      by_contra first
      obtain rfl : year = 0 := by omega
      omega
    have last := commonDays_last positive high.le
    have before := commonDays_mono (show day ≤ daysBeforeYear year - 1 by omega)
    omega
  · intro later
    rw [← commonDays_daysBeforeYear low high]
    exact commonDays_mono later

/-- The last year of an era ends with the era, and any other one where the next
begins. -/
theorem commonDays_div_eq_iff {year day : Int} (begun : 0 ≤ day)
    (ends : day < daysPerEra) :
    commonDays day / 365 = year ↔
      0 ≤ year ∧ year < 400 ∧ daysBeforeYear year ≤ day ∧
      (year < 399 → day < daysBeforeYear (year + 1)) := by
  constructor
  · rintro rfl
    have low : 0 ≤ commonDays day / 365 :=
      (le_commonDays_div_iff le_rfl (by decide) begun).mpr begun
    have high : commonDays day / 365 < 400 := by
      have most := commonDays_le ends
      omega
    refine ⟨low, high, (le_commonDays_div_iff low high begun).mp le_rfl,
      fun notLast => ?_⟩
    by_contra later
    have next :=
      (le_commonDays_div_iff (by omega) (by omega) begun).mpr (not_lt.mp later)
    omega
  · rintro ⟨low, high, yearBegun, yearEnds⟩
    have reached := (le_commonDays_div_iff low high begun).mpr yearBegun
    have most := commonDays_le ends
    by_contra other
    have later : year + 1 ≤ commonDays day / 365 := by omega
    have next := (le_commonDays_div_iff (by omega) (by omega) begun).mp later
    have before := yearEnds (by omega)
    omega

/-! ## Years that begin in March -/

/-- The day of a month of a year, where years begin in March and March is month
zero. -/
def ofMarch (year month day : Int) : Date where
  year := if month < 10 then year else year + 1
  month := if month < 10 then month + 3 else month - 9
  day := day

def marchMonthLength (year month : Int) : Int :=
  if month = 11 then (if isLeap (year + 1) then 29 else 28)
  else daysBefore (month + 1) - daysBefore month

theorem isLeap_iff {year : Int} :
    isLeap year = true ↔ year % 4 = 0 ∧ (year % 100 ≠ 0 ∨ year % 400 = 0) := by
  simp [isLeap]

theorem isValid_iff {date : Date} : date.isValid = true ↔
    1 ≤ date.month ∧ date.month ≤ 12 ∧ 1 ≤ date.day ∧
      date.day ≤ daysInMonth date.year date.month := by
  simp [isValid, and_assoc]

theorem daysInMonth_ofMarch {year month : Int} (low : 0 ≤ month)
    (high : month < 12) (day : Int) :
    daysInMonth (ofMarch year month day).year (ofMarch year month day).month =
      marchMonthLength year month := by
  interval_cases month <;> rfl

theorem exists_ofMarch {date : Date} (valid : date.isValid = true) :
    ∃ year month, 0 ≤ month ∧ month < 12 ∧
    date = ofMarch year month date.day := by
  have bounds := isValid_iff.mp valid
  by_cases early : date.month ≤ 2
  · refine ⟨date.year - 1, date.month + 9, by omega, by omega, ?_⟩
    rw [ofMarch, if_neg (by omega), if_neg (by omega)]
    simp
  · refine ⟨date.year, date.month - 3, by omega, by omega, ?_⟩
    rw [ofMarch, if_pos (by omega), if_pos (by omega)]
    simp

theorem isValid_ofMarch_iff {year month day : Int} (low : 0 ≤ month)
    (high : month < 12) :
    (ofMarch year month day).isValid = true ↔
    1 ≤ day ∧ day ≤ marchMonthLength year month := by
  rw [isValid_iff, daysInMonth_ofMarch low high]
  unfold ofMarch
  dsimp only
  split_ifs <;> omega

def firstOfMarch (year : Int) : Int :=
  year / 400 * daysPerEra + daysBeforeYear (year % 400)

theorem toDays_ofMarch {month : Int} (low : 0 ≤ month) (high : month < 12)
    (year day : Int) :
    (ofMarch year month day).toDays =
      firstOfMarch year + daysBefore month + day - 1 - epochOffset := by
  have yearOfEra : year - year / 400 * 400 = year % 400 := by omega
  unfold toDays ofMarch firstOfMarch
  dsimp only
  by_cases early : month < 10
  · simp only [if_pos early, if_neg (show ¬ month + 3 ≤ 2 by omega), yearOfEra,
      Int.add_sub_cancel]
  · simp only [if_neg early, if_pos (show month - 9 ≤ 2 by omega), yearOfEra,
      Int.add_sub_cancel, Int.sub_add_cancel]

/-! ## Days and their dates -/

theorem monthOfYear_iff {month dayOfYear : Int} :
    (5 * dayOfYear + 2) / 153 = month ↔
      daysBefore month ≤ dayOfYear ∧ dayOfYear < daysBefore (month + 1) := by
  unfold daysBefore
  omega

/-- The day is one of the month just when neither the next month nor the next
year has begun. The last year of an era ends with the era. -/
theorem le_marchMonthLength_iff {era year month day : Int} (first : 0 ≤ year)
    (last : year < 400) (low : 0 ≤ month) (high : month < 12) :
    day ≤ marchMonthLength (year + era * 400) month ↔
      daysBefore month + day ≤ daysBefore (month + 1) ∧
        daysBefore month + day ≤ 366 ∧ (year < 399 →
          daysBeforeYear year + daysBefore month + day ≤
            daysBeforeYear (year + 1)) := by
  unfold marchMonthLength
  by_cases february : month = 11
  · subst february
    have before : daysBefore 11 = 337 ∧ daysBefore (11 + 1) = 367 := by decide
    rw [if_pos rfl, before.1, before.2]
    split
    next leap =>
      rw [isLeap_iff] at leap
      unfold daysBeforeYear
      omega
    next common =>
      rw [isLeap_iff] at common
      unfold daysBeforeYear
      omega
  · rw [if_neg february]
    unfold daysBefore daysBeforeYear
    omega

/-- A day in the parts that its date is made of: the era, the year of the era
and the month of that year, which begins in March, and the day of the month. -/
structure HasParts (days era year month day : Int) : Prop where
  yearLow : 0 ≤ year
  yearHigh : year < 400
  monthLow : 0 ≤ month
  monthHigh : month < 12
  dayLow : 1 ≤ day
  dayHigh : day ≤ marchMonthLength (year + era * 400) month
  sum : days + epochOffset =
    era * daysPerEra + daysBeforeYear year + daysBefore month + day - 1

/-- The date of a day is computed one part after the other. -/
theorem ofDays_eq_of_parts {days era year month : Int}
    (isEra : (days + epochOffset) / daysPerEra = era)
    (isYear : commonDays (days + epochOffset - era * daysPerEra) / 365 = year)
    (isMonth :
      (5 * (days + epochOffset - era * daysPerEra - daysBeforeYear year) + 2) /
      153 = month) :
    ofDays days = ofMarch (year + era * 400) month
      (days + epochOffset - era * daysPerEra - daysBeforeYear year -
        daysBefore month + 1) := by
  subst isEra isYear isMonth
  rfl

theorem HasParts.ofDays_eq {days era year month day : Int}
    (parts : HasParts days era year month day) :
    ofDays days = ofMarch (year + era * 400) month day := by
  have ⟨yearLow, yearHigh, monthLow, monthHigh, dayLow, dayHigh, sum⟩ := parts
  obtain ⟨inMonth, short, inYear⟩ :=
    (le_marchMonthLength_iff yearLow yearHigh monthLow monthHigh).mp dayHigh
  have monthBegins : 0 ≤ daysBefore month := by
    unfold daysBefore
    omega
  have dayOfEra : days + epochOffset - era * daysPerEra =
      daysBeforeYear year + daysBefore month + day - 1 := by omega
  have begun : 0 ≤ days + epochOffset - era * daysPerEra := by
    unfold daysBeforeYear at dayOfEra
    omega
  have ends : days + epochOffset - era * daysPerEra < daysPerEra := by
    unfold daysBeforeYear at *
    unfold daysPerEra at *
    omega
  have isEra : (days + epochOffset) / daysPerEra = era := by
    unfold daysPerEra at *
    omega
  have isYear := (commonDays_div_eq_iff begun ends).mpr
    ⟨yearLow, yearHigh, by omega,
      fun notLast => by have next := inYear notLast; omega⟩
  have isMonth :
      (5 * (days + epochOffset - era * daysPerEra - daysBeforeYear year) + 2) /
      153 = month := monthOfYear_iff.mpr ⟨by omega, by omega⟩
  rw [ofDays_eq_of_parts isEra isYear isMonth]
  congr 1
  omega

theorem exists_hasParts (days : Int) :
    ∃ era year month day, HasParts days era year month day := by
  let era := (days + epochOffset) / daysPerEra
  let dayOfEra := days + epochOffset - era * daysPerEra
  let year := commonDays dayOfEra / 365
  let dayOfYear := dayOfEra - daysBeforeYear year
  let month := (5 * dayOfYear + 2) / 153
  have begun : 0 ≤ dayOfEra := by
    simp only [dayOfEra, era, daysPerEra]
    omega
  have ends : dayOfEra < daysPerEra := by
    simp only [dayOfEra, era, daysPerEra]
    omega
  obtain ⟨yearLow, yearHigh, yearBegun, yearEnds⟩ :=
    (commonDays_div_eq_iff begun ends).mp (Eq.refl year)
  obtain ⟨monthBegun, monthEnds⟩ := monthOfYear_iff.mp (Eq.refl month)
  have short : dayOfYear ≤ 365 := by
    unfold daysPerEra at ends
    unfold daysBeforeYear at yearEnds
    simp only [dayOfYear, daysBeforeYear]
    omega
  have monthLow : 0 ≤ month := by omega
  have monthHigh : month < 12 := by omega
  have dayHigh : dayOfYear - daysBefore month + 1 ≤
      marchMonthLength (year + era * 400) month :=
    (le_marchMonthLength_iff yearLow yearHigh monthLow monthHigh).mpr
      ⟨by omega, by omega, fun notLast => by have next := yearEnds notLast; omega⟩
  exact ⟨era, year, month, dayOfYear - daysBefore month + 1, yearLow, yearHigh,
    monthLow, monthHigh, by omega, dayHigh, by omega⟩

/-- The date of a day is the valid date that is of that day. -/
theorem ofDays_eq_iff {days : Int} {date : Date} :
    ofDays days = date ↔ date.isValid = true ∧ date.toDays = days := by
  constructor
  · rintro rfl
    obtain ⟨era, year, month, day, parts⟩ := exists_hasParts days
    have ⟨yearLow, yearHigh, monthLow, monthHigh, dayLow, dayHigh, sum⟩ := parts
    have wholeEras : (year + era * 400) / 400 = era := by omega
    have yearOfEra : (year + era * 400) % 400 = year := by omega
    rw [parts.ofDays_eq, isValid_ofMarch_iff monthLow monthHigh,
      toDays_ofMarch monthLow monthHigh, firstOfMarch, wholeEras, yearOfEra]
    exact ⟨⟨dayLow, dayHigh⟩, by omega⟩
  · rintro ⟨valid, rfl⟩
    obtain ⟨marchYear, month, low, high, same⟩ := exists_ofMarch valid
    have cut : marchYear % 400 + marchYear / 400 * 400 = marchYear := by omega
    have within := (isValid_ofMarch_iff low high).mp (same ▸ valid)
    have counted := toDays_ofMarch low high marchYear date.day
    rw [← same, firstOfMarch] at counted
    rw [← cut] at within
    have parts : HasParts date.toDays (marchYear / 400) (marchYear % 400)
        month date.day :=
      ⟨by omega, by omega, low, high, within.1, within.2, by omega⟩
    rw [parts.ofDays_eq, cut, ← same]

theorem isValid_ofDays (days : Int) : (ofDays days).isValid = true :=
  (ofDays_eq_iff.mp rfl).1

theorem toDays_ofDays (days : Int) : (ofDays days).toDays = days :=
  (ofDays_eq_iff.mp rfl).2

/-! ## One day after the other -/

def next (date : Date) : Date :=
  if date.day < daysInMonth date.year date.month then
    { date with day := date.day + 1 }
  else if date.month < 12 then ⟨date.year, date.month + 1, 1⟩
  else ⟨date.year + 1, 1, 1⟩

theorem daysInMonth_bounds (year month : Int) :
    1 ≤ daysInMonth year month ∧ daysInMonth year month ≤ 31 := by
  unfold daysInMonth
  split_ifs <;> omega

theorem isValid_next {date : Date} (valid : date.isValid = true) :
    date.next.isValid = true := by
  obtain ⟨monthLow, monthHigh, dayLow, dayHigh⟩ := isValid_iff.mp valid
  rw [isValid_iff]
  unfold next
  split_ifs <;> dsimp only
  · omega
  · have some := daysInMonth_bounds date.year (date.month + 1)
    omega
  · have some := daysInMonth_bounds (date.year + 1) 1
    omega

theorem next_ofMarch {year month : Int} (low : 0 ≤ month) (high : month < 12)
    (day : Int) :
    (ofMarch year month day).next =
      if day < marchMonthLength year month then ofMarch year month (day + 1)
      else if month < 11 then ofMarch year (month + 1) 1
      else ofMarch (year + 1) 0 1 := by
  unfold next
  rw [daysInMonth_ofMarch low high]
  refine if_congr Iff.rfl rfl ?_
  interval_cases month <;> rfl

theorem firstOfMarch_add_one (year : Int) :
    firstOfMarch (year + 1) = firstOfMarch year + daysBefore 11 +
    marchMonthLength year 11 := by
  have before : daysBefore 11 = 337 := by decide
  have leap := @isLeap_iff (year + 1)
  have whole : year = year % 400 + 400 * (year / 400) := by omega
  have low : 0 ≤ year % 400 := by omega
  have high : year % 400 < 400 := by omega
  rw [firstOfMarch, firstOfMarch, before, marchMonthLength, if_pos rfl]
  generalize year % 400 = ofEra, year / 400 = era at *
  subst whole
  rcases (show ofEra + 1 ≤ 400 from high).eq_or_lt with last | within
  · have wraps : (ofEra + 400 * era + 1) % 400 = 0 ∧
        (ofEra + 400 * era + 1) / 400 = era + 1 := by
      omega
    rw [if_pos (leap.mpr (by omega)), wraps.1, wraps.2]
    unfold daysPerEra daysBeforeYear
    omega
  · have stays : (ofEra + 400 * era + 1) % 400 = ofEra + 1 ∧
        (ofEra + 400 * era + 1) / 400 = era := by omega
    rw [stays.1, stays.2]
    unfold daysBeforeYear
    split
    next isLeap =>
      rw [leap] at isLeap
      omega
    next common =>
      rw [leap] at common
      omega

theorem toDays_next {date : Date} (valid : date.isValid = true) :
    date.next.toDays = date.toDays + 1 := by
  obtain ⟨year, month, low, high, same⟩ := exists_ofMarch valid
  generalize date.day = day at same
  subst same
  have within := (isValid_ofMarch_iff low high).mp valid
  rw [next_ofMarch low high]
  have counted := toDays_ofMarch low high year day
  by_cases inMonth : day < marchMonthLength year month
  · rw [if_pos inMonth, toDays_ofMarch low high]
    omega
  rw [if_neg inMonth]
  obtain rfl : day = marchMonthLength year month := by omega
  by_cases inYear : month < 11
  · rw [if_pos inYear, toDays_ofMarch (by omega) (by omega)]
    rw [marchMonthLength, if_neg (by omega)] at counted ⊢
    omega
  · obtain rfl : month = 11 := by omega
    have begins : daysBefore 0 = 0 := by decide
    have nextYear := firstOfMarch_add_one year
    rw [if_neg inYear, toDays_ofMarch (by decide) (by decide)]
    omega

theorem ofDays_add_one (days : Int) : ofDays (days + 1) = (ofDays days).next := by
  refine ofDays_eq_iff.mpr ⟨isValid_next (isValid_ofDays days), ?_⟩
  rw [toDays_next (isValid_ofDays days), toDays_ofDays]

/-! ## Years that have begun -/

def newYear (year : Int) : Int := (⟨year, 1, 1⟩ : Date).toDays

theorem newYear_eq (year : Int) :
    newYear year = firstOfMarch (year - 1) + 306 - epochOffset := by
  have january : (⟨year, 1, 1⟩ : Date) = ofMarch (year - 1) 10 1 := by
    simp [ofMarch]
  have before : daysBefore 10 = 306 := by decide
  rw [newYear, january, toDays_ofMarch (by decide) (by decide), before]
  omega

theorem firstOfMarch_add_le (year : Int) :
    firstOfMarch year + 365 ≤ firstOfMarch (year + 1) := by
  have before : daysBefore 11 = 337 := by decide
  rw [firstOfMarch_add_one, before, marchMonthLength, if_pos rfl]
  split <;> omega

theorem newYear_mono {year later : Int} (ordered : year ≤ later) :
    newYear year ≤ newYear later := by
  refine monotone_int_of_le_succ (fun year => ?_) ordered
  have later := firstOfMarch_add_le (year - 1)
  rw [newYear_eq, newYear_eq, Int.add_sub_cancel, Int.sub_add_cancel] at *
  omega

theorem toDays_bounds {date : Date} (valid : date.isValid = true) :
    newYear date.year ≤ date.toDays ∧ date.toDays < newYear (date.year + 1) := by
  obtain ⟨year, month, low, high, same⟩ := exists_ofMarch valid
  generalize date.day = day at same
  subst same
  obtain ⟨dayLow, dayHigh⟩ := (isValid_ofMarch_iff low high).mp valid
  rw [toDays_ofMarch low high, newYear_eq, newYear_eq, Int.add_sub_cancel]
  by_cases early : month < 10
  · have sameYear : (ofMarch year month day).year = year := if_pos early
    have before := firstOfMarch_add_le (year - 1)
    rw [marchMonthLength, if_neg (by omega)] at dayHigh
    rw [Int.sub_add_cancel] at before
    rw [sameYear]
    unfold daysBefore at *
    omega
  · have nextYear : (ofMarch year month day).year = year + 1 := if_neg early
    have after := firstOfMarch_add_le year
    have short : daysBefore month + day ≤ 366 := by
      unfold marchMonthLength at dayHigh
      unfold daysBefore at *
      split_ifs at dayHigh <;> omega
    rw [nextYear, Int.add_sub_cancel]
    unfold daysBefore at *
    omega

theorem le_year_ofDays_iff {year days : Int} :
    year ≤ (ofDays days).year ↔ newYear year ≤ days := by
  obtain ⟨begun, ends⟩ := toDays_bounds (isValid_ofDays days)
  rw [toDays_ofDays] at begun ends
  constructor
  · intro reached
    exact (newYear_mono reached).trans begun
  · intro started
    by_contra later
    have next := newYear_mono (show (ofDays days).year + 1 ≤ year by omega)
    omega

end CriteriaQuery.Date
