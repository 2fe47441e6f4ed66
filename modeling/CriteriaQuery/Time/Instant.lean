import CriteriaQuery.Text.Numeral
import CriteriaQuery.Time.Calendar

namespace CriteriaQuery

/-! Instants as milliseconds from the beginning of 1970, and their text by
RFC 3339. -/

namespace Instant

def millisPerDay : Int := 86400000

def earliest : Int := -8334601228800000

def latest : Int := 8210266876799999

/-! ## Writing -/

def padded (width value : Nat) : List Char :=
  let digits := Text.decimal value
  List.replicate (width - digits.length) '0' ++ digits

/-- A year has four digits or more. Years outside of four digits have a sign. -/
def yearText (year : Int) : List Char :=
  if year < 0 then '-' :: padded 4 year.natAbs
  else if 9999 < year then '+' :: padded 4 year.natAbs
  else padded 4 year.natAbs

def text (millis : Int) : String :=
  let date := Date.ofDays (millis / millisPerDay)
  let time := (millis % millisPerDay).toNat
  String.ofList (yearText date.year ++ '-' :: padded 2 date.month.toNat ++
    '-' :: padded 2 date.day.toNat ++ 'T' :: padded 2 (time / 3600000) ++
    ':' :: padded 2 (time / 60000 % 60) ++ ':' :: padded 2 (time / 1000 % 60) ++
    '.' :: padded 3 (time % 1000) ++ ['Z'])

def text? (millis : Int) : Option String :=
  if earliest ≤ millis ∧ millis ≤ latest then some (text millis) else none

example : text 1704164645000 = "2024-01-02T03:04:05.000Z" := by decide +kernel
example : text earliest = "-262143-01-01T00:00:00.000Z" := by decide +kernel

/-! ## Reading -/

def digits? : (count soFar : Nat) → List Char → Option (Nat × List Char)
  | 0, soFar, rest => some (soFar, rest)
  | _ + 1, _, [] => none
  | count + 1, soFar, c :: rest =>
    match Text.digitValue? c with
    | some digit => digits? count (soFar * 10 + digit) rest
    | none => none

def oneOf? (wanted : List Char) : List Char → Option (List Char)
  | [] => none
  | c :: rest => if wanted.contains c then some rest else none

def date? (characters : List Char) : Option (Date × List Char) := do
  let (year, rest) ← digits? 4 0 characters
  let rest ← oneOf? ['-'] rest
  let (month, rest) ← digits? 2 0 rest
  let rest ← oneOf? ['-'] rest
  let (day, rest) ← digits? 2 0 rest
  let date : Date := ⟨year, month, day⟩
  if date.isValid then some (date, rest) else none

def time? (characters : List Char) : Option (Nat × List Char) := do
  let (hour, rest) ← digits? 2 0 characters
  let rest ← oneOf? [':'] rest
  let (minute, rest) ← digits? 2 0 rest
  let rest ← oneOf? [':'] rest
  let (second, rest) ← digits? 2 0 rest
  if hour ≤ 23 ∧ minute ≤ 59 ∧ second ≤ 60 then
    some (hour * 3600 + minute * 60 + second, rest)
  else none

/-- Milliseconds of an optional fraction of a second; more digits are cut
off. -/
def fraction? : List Char → Option (Nat × List Char)
  | '.' :: rest =>
    let digits := rest.takeWhile Char.isDigit
    if digits.isEmpty then none
    else
      let millis := (digits ++ ['0', '0', '0']).take 3
      (digits? 3 0 millis).map fun (value, _) =>
        (value, rest.dropWhile Char.isDigit)
  | rest => some (0, rest)

def offset? : List Char → Option (Int × List Char)
  | 'Z' :: rest | 'z' :: rest => some (0, rest)
  | sign :: rest => do
    let (hours, rest) ← digits? 2 0 rest
    let rest ← oneOf? [':'] rest
    let (minutes, rest) ← digits? 2 0 rest
    let seconds : Int := (hours * 3600 + minutes * 60 : Nat)
    if 23 < hours ∨ 59 < minutes then none
    else if sign = '+' then some (seconds, rest)
    else if sign = '-' ∨ sign = '\u2212' then some (-seconds, rest)
    else none
  | [] => none

def ofText? (text : String) : Option Int := do
  let (date, rest) ← date? text.toList
  let rest ← oneOf? ['T', 't', ' '] rest
  let (seconds, rest) ← time? rest
  let (millis, rest) ← fraction? rest
  let (offset, rest) ← offset? rest
  if rest.isEmpty then
    some ((date.toDays * 86400 + seconds - offset) * 1000 + millis)
  else none

example : ofText? "2024-01-02t03:04:05.9999+01:00" = some 1704161045999 := by
  decide +kernel
example : ofText? "2023-02-29T00:00:00Z" = none := by decide +kernel
example : ofText? "2016-12-31T23:59:60Z" = ofText? "2017-01-01T00:00:00Z" := by
  decide +kernel

end Instant

end CriteriaQuery
