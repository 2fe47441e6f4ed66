import CriteriaQuery.Model.Coercion
import CriteriaQuery.Proofs.Parameters.Scalar
import CriteriaQuery.Proofs.Time.Calendar

namespace CriteriaQuery

/-! The text of an instant is read back as the instant, as long as its year has
four digits. So a timestamp becomes a text and the same timestamp again. -/

namespace Instant

open Double (digitsValue digitsValue_decimal digitsValue_zeros_append
  isDigit_of_mem_decimal
  takeWhile_append_of_stop)

/-! ## Numbers of a fixed width -/

theorem digits?_append {front : List Char}
    (digits : ∀ c ∈ front, c.isDigit = true) (soFar : Nat) (rest : List Char) :
    digits? front.length soFar (front ++ rest) =
      some (Text.valueFrom soFar front, rest) := by
  induction front generalizing soFar with
  | nil => rfl
  | cons c front induction =>
    rw [List.forall_mem_cons] at digits
    rw [List.length_cons, List.cons_append, digits?, Text.digitValue?,
      if_pos digits.1]
    exact induction digits.2 (soFar * 10 + (c.toNat - '0'.toNat))

theorem isDigit_of_mem_padded {width value : Nat} {c : Char}
    (member : c ∈ padded width value) : c.isDigit = true := by
  rcases List.mem_append.mp member with zero | digit
  · rw [List.eq_of_mem_replicate zero]
    rfl
  · exact isDigit_of_mem_decimal digit

theorem length_padded {width value : Nat} (positive : 0 < width)
    (fits : value < 10 ^ width) : (padded width value).length = width := by
  have short : (Text.decimal value).length ≤ width :=
    (Nat.length_toDigits_le_iff (by decide) positive).mpr fits
  simp only [padded, List.length_append, List.length_replicate]
  omega

theorem digitsValue_padded (width value : Nat) :
    digitsValue (padded width value) = value := by
  rw [padded, digitsValue_zeros_append, digitsValue_decimal]

theorem digits?_padded {width value : Nat} (positive : 0 < width)
    (fits : value < 10 ^ width) (rest : List Char) :
    digits? width 0 (padded width value ++ rest) = some (value, rest) := by
  have read :=
    digits?_append (fun _ => @isDigit_of_mem_padded width value _) 0 rest
  have number : Text.valueFrom 0 (padded width value) = value :=
    digitsValue_padded width value
  rwa [length_padded positive fits, number] at read

/-! ## The parts of a text -/

def date (millis : Int) : Date := Date.ofDays (millis / millisPerDay)

theorem isValid_date (millis : Int) : (date millis).isValid = true :=
  Date.isValid_ofDays _

theorem toDays_date (millis : Int) :
    (date millis).toDays = millis / millisPerDay :=
  Date.toDays_ofDays _

def HasFourDigitYear (millis : Int) : Prop :=
  0 ≤ (date millis).year ∧ (date millis).year ≤ 9999

instance (millis : Int) : Decidable (HasFourDigitYear millis) :=
  inferInstanceAs (Decidable (_ ∧ _))

def timeOfDay (millis : Int) : Nat := (millis % millisPerDay).toNat

theorem timeOfDay_lt (millis : Int) : timeOfDay millis < 86400000 := by
  unfold timeOfDay millisPerDay
  omega

theorem oneOf?_cons {wanted : List Char} {c : Char}
    (member : wanted.contains c = true) (rest : List Char) :
    oneOf? wanted (c :: rest) = some rest := if_pos member

theorem date?_written {date : Date} (valid : date.isValid = true)
    (low : 0 ≤ date.year) (high : date.year ≤ 9999) (rest : List Char) :
    date? (padded 4 date.year.natAbs ++ '-' :: (padded 2 date.month.toNat ++
      '-' :: (padded 2 date.day.toNat ++ rest))) = some (date, rest) := by
  obtain ⟨monthLow, monthHigh, dayLow, dayHigh⟩ := Date.isValid_iff.mp valid
  have short := Date.daysInMonth_bounds date.year date.month
  have year := @digits?_padded 4 date.year.natAbs (by decide) (by omega)
  have month := @digits?_padded 2 date.month.toNat (by decide) (by omega)
  have day := @digits?_padded 2 date.day.toNat (by decide) (by omega)
  have same : (⟨date.year.natAbs, date.month.toNat, date.day.toNat⟩ : Date) =
      date := by
    rw [Date.mk.injEq]
    omega
  have hyphen := @oneOf?_cons ['-'] '-' rfl
  simp only [date?, year, hyphen, month, day, same, valid, Option.bind_eq_bind,
    Option.bind_some, if_true]

theorem time?_written {time : Nat} (within : time < 86400000) (rest : List Char) :
    time? (padded 2 (time / 3600000) ++ ':' ::
        (padded 2 (time / 60000 % 60) ++ ':' ::
          (padded 2 (time / 1000 % 60) ++ rest))) =
      some (time / 1000, rest) := by
  have hour := @digits?_padded 2 (time / 3600000) (by decide) (by omega)
  have minute := @digits?_padded 2 (time / 60000 % 60) (by decide) (by omega)
  have second := @digits?_padded 2 (time / 1000 % 60) (by decide) (by omega)
  have colon := @oneOf?_cons [':'] ':' rfl
  have inDay : time / 3600000 ≤ 23 ∧ time / 60000 % 60 ≤ 59 ∧
    time / 1000 % 60 ≤ 60 := by omega
  have sum : time / 3600000 * 3600 + time / 60000 % 60 * 60 + time / 1000 % 60 =
      time / 1000 := by
    omega
  simp only [time?, hour, colon, minute, second, Option.bind_eq_bind,
    Option.bind_some, if_pos inDay, sum]

theorem fraction?_written {millis : Nat} (short : millis < 1000)
    {rest : List Char} (stop : ∀ c ∈ rest.head?, c.isDigit = false) :
    fraction? ('.' :: (padded 3 millis ++ rest)) = some (millis, rest) := by
  obtain ⟨taken, dropped⟩ := takeWhile_append_of_stop
    (fun _ => @isDigit_of_mem_padded 3 millis _) rest stop
  have length := @length_padded 3 millis (by decide) short
  have nonempty : padded 3 millis ≠ [] := List.ne_nil_of_length_pos (by omega)
  have cut : (padded 3 millis ++ ['0', '0', '0']).take 3 = padded 3 millis :=
    List.take_left' length
  have read := @digits?_padded 3 millis (by decide) short []
  rw [List.append_nil] at read
  simp only [fraction?, taken, dropped, cut, read,
    List.isEmpty_eq_false_iff.mpr nonempty,
    Option.map_some, Bool.false_eq_true, if_false]

/-! ## Whole texts -/

theorem toList_text (millis : Int) :
    (text millis).toList = yearText (date millis).year ++ '-' ::
      (padded 2 (date millis).month.toNat ++ '-' ::
        (padded 2 (date millis).day.toNat ++ 'T' ::
        (padded 2 (timeOfDay millis / 3600000) ++ ':' ::
          (padded 2 (timeOfDay millis / 60000 % 60) ++ ':' ::
            (padded 2 (timeOfDay millis / 1000 % 60) ++ '.' ::
              (padded 3 (timeOfDay millis % 1000) ++ ['Z'])))))) := by
  rw [text, String.toList_ofList]
  simp only [List.append_assoc, List.cons_append]
  rfl

theorem yearText_of_fourDigits {millis : Int} (year : HasFourDigitYear millis) :
    yearText (date millis).year = padded 4 (date millis).year.natAbs := by
  rw [yearText, if_neg (not_lt.mpr year.1), if_neg (not_lt.mpr year.2)]

theorem ofText?_text {millis : Int} (year : HasFourDigitYear millis) :
    ofText? (text millis) = some millis := by
  have day := date?_written (isValid_date millis) year.1 year.2
  have mark := @oneOf?_cons ['T', 't', ' '] 'T' rfl
  have time := time?_written (timeOfDay_lt millis)
  have fraction :=
    @fraction?_written (timeOfDay millis % 1000) (by omega) ['Z'] (by simp)
  have universal : offset? ['Z'] = some (0, []) := rfl
  have sum : (millis / millisPerDay * 86400 +
      ((timeOfDay millis / 1000 : Nat) : Int) - 0) * 1000 +
      ((timeOfDay millis % 1000 : Nat) : Int) = millis := by
    unfold timeOfDay millisPerDay
    omega
  rw [ofText?, toList_text, yearText_of_fourDigits year]
  simp only [day, mark, time, fraction, universal, Option.bind_eq_bind,
    Option.bind_some, List.isEmpty_nil, if_true, toDays_date, sum]

theorem hasFourDigitYear_iff {millis : Int} :
    HasFourDigitYear millis ↔
    -62167219200000 ≤ millis ∧ millis ≤ 253402300799999 := by
  have first : Date.newYear 0 = -719528 := by decide
  have afterLast : Date.newYear 10000 = 2932897 := by decide
  have begun : 0 ≤ (date millis).year ↔ _ := Date.le_year_ofDays_iff
  have ended : 10000 ≤ (date millis).year ↔ _ := Date.le_year_ofDays_iff
  rw [first] at begun
  rw [afterLast] at ended
  unfold HasFourDigitYear
  unfold millisPerDay at *
  omega

/-- Outside of these years a sign stands in front, which no date is read from. -/
theorem ofText?_text_of_signed {millis : Int} (year : ¬ HasFourDigitYear millis) :
    ofText? (text millis) = none := by
  unfold HasFourDigitYear at year
  rw [ofText?, toList_text, yearText]
  split_ifs
  · rfl
  · rfl
  · omega

/-- The text of an instant is read back just when its year has four digits. -/
theorem ofText?_text_iff {millis : Int} :
    ofText? (text millis) = some millis ↔ HasFourDigitYear millis := by
  by_cases year : HasFourDigitYear millis
  · exact iff_of_true (ofText?_text year) year
  · rw [ofText?_text_of_signed year]
    exact iff_of_false (by simp) year

theorem trim_text {millis : Int} (year : HasFourDigitYear millis) :
    Text.trim (text millis) = text millis := by
  have digits (width value : Nat) : ∀ c ∈ padded width value,
      Text.isBlank c = false :=
    fun c member => Text.isBlank_of_isDigit (isDigit_of_mem_padded member)
  have plain : ∀ c ∈ (text millis).toList, Text.isBlank c = false := by
    rw [toList_text, yearText_of_fourDigits year]
    simp only [List.forall_mem_append, List.forall_mem_cons]
    exact ⟨digits _ _, by decide, digits _ _, by decide, digits _ _, by decide,
      digits _ _, by decide, digits _ _, by decide, digits _ _, by
        decide, digits _ _, by decide,
      List.forall_mem_nil _⟩
  rw [Text.trim, Text.trimmed_of_not_blank plain, String.ofList_toList]

theorem text?_of_hasFourDigitYear {millis : Int}
    (year : HasFourDigitYear millis) : text? millis = some (text millis) := by
  have range := hasFourDigitYear_iff.mp year
  refine if_pos ?_
  unfold earliest latest
  omega

end Instant

namespace Coercion

open Instant

theorem coerce_instant {millis : Int} (year : HasFourDigitYear millis) :
    FieldKind.instant.coerce (.ofInt millis) = .string (text millis) := by
  have range := hasFourDigitYear_iff.mp year
  have powers : (1 <<< 63 : Int) = 9223372036854775808 ∧
      (1 <<< 64 : Int) = 18446744073709551616 := by decide
  have low : -(1 <<< 63) ≤ millis := by omega
  have high : millis < 1 <<< 64 := by omega
  have signed : integer? (.number (.integer millis low high)) = some millis :=
    if_pos (by omega)
  rw [Json.ofInt_of_range low high, FieldKind.coerce, toInstant, signed,
    Option.bind_some, text?_of_hasFourDigitYear year]

theorem coerce_timestamp {millis : Int} (year : HasFourDigitYear millis) :
    FieldKind.timestamp.coerce (.string (text millis)) = .ofInt millis := by
  rw [FieldKind.coerce, toTimestamp, trim_text year, ofText?_text_iff.mpr year]

/-- A timestamp whose date has a year of four digits becomes a text, the text
becomes the timestamp again, and no other such timestamp becomes the same
text. -/
theorem timestamp_survives_instant {millis : Int}
    (year : HasFourDigitYear millis) :
    ∃ text, FieldKind.instant.coerce (.ofInt millis) = .string text ∧
      FieldKind.timestamp.coerce (.string text) = .ofInt millis ∧
      ∀ other, HasFourDigitYear other → other ≠ millis →
        FieldKind.instant.coerce (.ofInt other) ≠ .string text := by
  refine ⟨text millis, coerce_instant year, coerce_timestamp year,
    fun other otherYear different same => different ?_⟩
  rw [coerce_instant otherYear, Json.string.injEq] at same
  have read := ofText?_text_iff.mpr otherYear
  rw [same, ofText?_text_iff.mpr year] at read
  exact (Option.some.inj read).symm

/-- The last millisecond of the leap day of the year 0000, long before 1970. The
millisecond after it is one of March. -/
theorem leap_day_of_year_zero :
    FieldKind.instant.coerce (.ofInt (-62162035200001)) =
        .string "0000-02-29T23:59:59.999Z" ∧
      FieldKind.timestamp.coerce (.string "0000-02-29T23:59:59.999Z") =
        .ofInt (-62162035200001) ∧
      FieldKind.instant.coerce (.ofInt (-62162035200000)) ≠
        .string "0000-02-29T23:59:59.999Z" := by
  have year : HasFourDigitYear (-62162035200001) := by decide
  have nextYear : HasFourDigitYear (-62162035200000) := by decide
  have written : Instant.text (-62162035200001) =
    "0000-02-29T23:59:59.999Z" := by decide +kernel
  obtain ⟨text, coerced, back, apart⟩ := timestamp_survives_instant year
  rw [coerce_instant year, written] at coerced
  cases coerced
  exact ⟨written ▸ coerce_instant year, back, apart _ nextYear (by decide)⟩

end Coercion

end CriteriaQuery
