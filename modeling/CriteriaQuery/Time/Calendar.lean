namespace CriteriaQuery

/-! The proleptic Gregorian calendar. Years are counted from March here, so
that a leap day is the last day of its year. -/

structure Date where
  year : Int
  month : Int
  day : Int
  deriving DecidableEq, Repr

namespace Date

/-- Days from the first of March of year zero to the first of January 1970. -/
def epochOffset : Int := 719468

def daysPerEra : Int := 146097

def isLeap (year : Int) : Bool :=
  year % 4 = 0 && (year % 100 ≠ 0 || year % 400 = 0)

def daysInMonth (year month : Int) : Int :=
  if month = 2 then (if isLeap year then 29 else 28)
  else if month = 4 ∨ month = 6 ∨ month = 9 ∨ month = 11 then 30
  else 31

def isValid (date : Date) : Bool :=
  1 ≤ date.month && date.month ≤ 12 && 1 ≤ date.day &&
    date.day ≤ daysInMonth date.year date.month

/-- Days from the first of March to the first day of a month, with March as
month zero. -/
def daysBefore (month : Int) : Int := (153 * month + 2) / 5

def daysBeforeYear (year : Int) : Int := 365 * year + year / 4 - year / 100

def toDays (date : Date) : Int :=
  let year := if date.month ≤ 2 then date.year - 1 else date.year
  let era := year / 400
  let month := if date.month ≤ 2 then date.month + 9 else date.month - 3
  era * daysPerEra + daysBeforeYear (year - era * 400) + daysBefore month +
    date.day - 1 - epochOffset

def ofDays (days : Int) : Date :=
  let days := days + epochOffset
  let era := days / daysPerEra
  let dayOfEra := days - era * daysPerEra
  let yearOfEra :=
    (dayOfEra - dayOfEra / 1460 + dayOfEra / 36524 - dayOfEra / 146096) / 365
  let dayOfYear := dayOfEra - daysBeforeYear yearOfEra
  let month := (5 * dayOfYear + 2) / 153
  let year := yearOfEra + era * 400
  { year := if month < 10 then year else year + 1
    month := if month < 10 then month + 3 else month - 9
    day := dayOfYear - daysBefore month + 1 }

example : toDays ⟨1970, 1, 1⟩ = 0 ∧ toDays ⟨2000, 2, 29⟩ = 11016 := by decide
example : ofDays 11016 = ⟨2000, 2, 29⟩ ∧ ofDays (-719528) = ⟨0, 1, 1⟩ := by decide

end Date

end CriteriaQuery
