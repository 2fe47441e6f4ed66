import CriteriaQuery.Double.Text
import CriteriaQuery.Proofs.Double.Rounding
import Mathlib.Algebra.Field.Rat
import Mathlib.Data.List.DropRight

namespace CriteriaQuery

/-! The text of a floating point number denotes a decimal that is nearest to the
number. Hence no two numbers have the same text. -/

namespace Double

/-! ## Digits -/

theorem digitsValue_eq (digits : List Char) :
    digitsValue digits = Nat.ofDigitChars 10 digits 0 := by
  rw [Nat.ofDigitChars_eq_foldl, digitsValue]
  congr 1
  funext value digit
  rw [Nat.mul_comm]

theorem digitsValue_decimal (value : Nat) :
    digitsValue (Text.decimal value) = value := by
  rw [digitsValue_eq, Text.decimal, Nat.ofDigitChars_ten_toDigits]

theorem digitsValue_append_zeros (digits : List Char) (count : Nat) :
    digitsValue (digits ++ List.replicate count '0') =
      digitsValue digits * 10 ^ count := by
  rw [digitsValue_eq, digitsValue_eq, Nat.ofDigitChars_append,
    Nat.ofDigitChars_replicate_zero, Nat.mul_comm]

theorem digitsValue_zeros_append (count : Nat) (digits : List Char) :
    digitsValue (List.replicate count '0' ++ digits) = digitsValue digits := by
  rw [digitsValue_eq, digitsValue_eq, Nat.ofDigitChars_append,
    Nat.ofDigitChars_replicate_zero, Nat.mul_zero]

theorem isDigit_of_mem_decimal {value : Nat} {c : Char}
    (member : c ∈ Text.decimal value) : c.isDigit = true :=
  Nat.isDigit_of_mem_toDigits (by decide) (by decide) member

/-- What `significantDigits` takes away are zeros. -/
theorem exists_zeros_significantDigits (digits : List Char) :
    ∃ count, digits = significantDigits digits ++ List.replicate count '0' := by
  have zeros : ∀ c ∈ digits.reverse.takeWhile (· = '0'), c = '0' := by
    intro c member
    simpa using List.mem_takeWhile_imp member
  have parted := congrArg List.reverse
    (List.takeWhile_append_dropWhile (p := (· = '0')) (l := digits.reverse))
  rw [List.reverse_append, List.reverse_reverse, List.eq_replicate_of_mem zeros,
    List.reverse_replicate] at parted
  exact ⟨_, parted.symm⟩

/-! ## Reading digits -/

theorem takeWhile_append_of_stop {p : Char → Bool} {front : List Char}
    (all : ∀ c ∈ front, p c = true) (rest : List Char)
    (stop : ∀ c ∈ rest.head?, p c = false) :
    (front ++ rest).takeWhile p = front ∧ (front ++ rest).dropWhile p = rest := by
  induction front with
  | nil =>
    cases rest with
    | nil => simp
    | cons c rest => simp [stop c rfl]
  | cons c front induction =>
    have first := all c List.mem_cons_self
    have later := induction fun d member => all d (List.mem_cons_of_mem c member)
    simp [first, later]

theorem splitDecimal_point {whole fraction : List Char}
    (wholeDigits : ∀ c ∈ whole, c.isDigit = true)
    (fractionDigits : ∀ c ∈ fraction, c.isDigit = true) (rest : List Char)
    (stop : ∀ c ∈ rest.head?, c.isDigit = false) :
    splitDecimal (whole ++ '.' :: (fraction ++ rest)) =
      (whole, fraction, rest) := by
  have before :=
    takeWhile_append_of_stop wholeDigits ('.' :: (fraction ++ rest)) (by simp)
  have after := takeWhile_append_of_stop fractionDigits rest stop
  simp [splitDecimal, before, after]

theorem splitDecimal_mark {whole rest : List Char}
    (wholeDigits : ∀ c ∈ whole, c.isDigit = true) :
    splitDecimal (whole ++ 'e' :: rest) = (whole, [], 'e' :: rest) := by
  have before := takeWhile_append_of_stop wholeDigits ('e' :: rest) (by simp)
  simp [splitDecimal, before]

theorem readExponent?_signed (exponent : Int) :
    readExponent? ('e' :: (if exponent < 0 then '-' else '+') ::
      Text.decimal exponent.natAbs) = some exponent := by
  have digits : readExponent?.magnitude? (Text.decimal exponent.natAbs) =
      some (exponent.natAbs : Int) := by
    have some : (Text.decimal exponent.natAbs).isEmpty = false := by
      simp [Text.decimal, Nat.toDigits_ne_nil]
    have all : (Text.decimal exponent.natAbs).all Char.isDigit = true := by
      rw [List.all_eq_true]
      intro c member
      exact isDigit_of_mem_decimal member
    rw [readExponent?.magnitude?, some, all, digitsValue_decimal]
    rfl
  by_cases negative : exponent < 0
  · have opposite : -(exponent.natAbs : Int) = exponent := by omega
    rw [if_pos negative]
    simp only [readExponent?, true_or, if_true, digits, Option.map_some, opposite]
  · have same : (exponent.natAbs : Int) = exponent := by omega
    rw [if_neg negative]
    simp only [readExponent?, true_or, if_true, digits, same]

/-! ## Denoted numbers -/

def denoted? (characters : List Char) : Option ℚ :=
  let (whole, fraction, exponentPart) := splitDecimal characters
  (readExponent? exponentPart).map fun exponent : Int =>
    digitsValue (whole ++ fraction) * (10 : ℚ) ^ (exponent - fraction.length)

section Layout

variable {digits : List Char} (exponent : Int)

/-- A point behind the first digit, moved by the exponent. -/
def placed (digits : List Char) (exponent : Int) : ℚ :=
  digitsValue digits * (10 : ℚ) ^ (exponent + 1 - digits.length)

theorem denoted?_point {whole fraction : List Char}
    (wholeDigits : ∀ c ∈ whole, c.isDigit = true)
    (fractionDigits : ∀ c ∈ fraction, c.isDigit = true) :
    denoted? (whole ++ '.' :: fraction) =
      some (digitsValue (whole ++ fraction) *
        (10 : ℚ) ^ (-(fraction.length : Int))) := by
  have parts := splitDecimal_point wholeDigits fractionDigits [] (by simp)
  rw [List.append_nil] at parts
  rw [denoted?, parts]
  simp [readExponent?]

theorem denoted?_plain (all : ∀ c ∈ digits, c.isDigit = true) :
    denoted? (plain digits exponent) = some (placed digits exponent) := by
  have zeros (count : Nat) : ∀ c ∈ List.replicate count '0',
      c.isDigit = true := by
    intro c member
    rw [List.eq_of_mem_replicate member]
    rfl
  unfold plain
  by_cases negative : exponent < 0
  · have fraction : ∀ c ∈ List.replicate (exponent.natAbs - 1) '0' ++ digits,
        c.isDigit = true := by
      simpa only [List.forall_mem_append] using ⟨zeros _, all⟩
    have value : digitsValue
        (['0'] ++ (List.replicate (exponent.natAbs - 1) '0' ++ digits)) =
        digitsValue digits := by
      rw [← List.append_assoc]
      exact digitsValue_zeros_append (exponent.natAbs - 1 + 1) digits
    have place :
        -((List.replicate (exponent.natAbs - 1) '0' ++ digits).length : Int) =
        exponent + 1 - digits.length := by
      simp only [List.length_append, List.length_replicate]
      omega
    have read := denoted?_point (zeros 1) fraction
    rw [place] at read
    rw [if_pos negative, placed, ← value]
    exact read
  · rw [if_neg negative]
    by_cases short : digits.length ≤ exponent.toNat + 1
    · have whole :
          ∀ c ∈ digits ++ List.replicate (exponent.toNat + 1 - digits.length) '0',
          c.isDigit = true := by
        simpa only [List.forall_mem_append] using ⟨all, zeros _⟩
      have place : ((exponent.toNat + 1 - digits.length + 1 : Nat) : Int) + -1 =
          exponent + 1 - digits.length := by
        omega
      have read := denoted?_point whole (zeros 1)
      rw [List.append_assoc digits _ (List.replicate 1 '0'),
        List.replicate_append_replicate, digitsValue_append_zeros, Nat.cast_mul,
        Nat.cast_pow, mul_assoc, ← zpow_natCast, List.length_replicate] at read
      simp only [short, if_true]
      rw [placed, ← place, zpow_add₀ (by norm_num)]
      exact read
    · simp only [short, if_false]
      have whole : ∀ c ∈ digits.take (exponent.toNat + 1), c.isDigit = true :=
        fun c member => all c (List.mem_of_mem_take member)
      have fraction : ∀ c ∈ digits.drop (exponent.toNat + 1), c.isDigit = true :=
        fun c member => all c (List.mem_of_mem_drop member)
      have place : -((digits.drop (exponent.toNat + 1)).length : Int) =
          exponent + 1 - digits.length := by
        rw [List.length_drop]
        omega
      rw [denoted?_point whole fraction, List.take_append_drop, place, placed]

theorem denoted?_mark {whole : List Char}
    (wholeDigits : ∀ c ∈ whole, c.isDigit = true) :
    denoted? (whole ++ 'e' :: (if exponent < 0 then '-' else '+') ::
      Text.decimal exponent.natAbs) =
        some (digitsValue whole * (10 : ℚ) ^ exponent) := by
  rw [denoted?, splitDecimal_mark wholeDigits]
  simp only [readExponent?_signed, Option.map_some]
  simp

theorem denoted?_scientific (all : ∀ c ∈ digits, c.isDigit = true) :
    denoted? (scientific digits exponent) = some (placed digits exponent) := by
  cases digits with
  | nil =>
    have nothing : placed [] exponent = digitsValue [] * (10 : ℚ) ^ exponent := by
      simp [placed, digitsValue]
    rw [nothing]
    exact denoted?_mark exponent (by simp)
  | cons first rest =>
    cases rest with
    | nil =>
      have place : exponent = exponent + 1 - ([first].length : Int) := by simp
      rw [placed, ← place]
      exact denoted?_mark exponent all
    | cons second rest =>
      have firstDigit : ∀ c ∈ [first], c.isDigit = true := by
        simpa using all first List.mem_cons_self
      have fraction : ∀ c ∈ second :: rest, c.isDigit = true :=
        fun c member => all c (List.mem_cons_of_mem first member)
      have parts := splitDecimal_point firstDigit fraction
        ('e' :: (if exponent < 0 then '-' else '+') ::
          Text.decimal exponent.natAbs)
        (by simp)
      have place : exponent - ((second :: rest).length : Int) =
          exponent + 1 - ((first :: second :: rest).length : Int) := by
        simp only [List.length_cons]
        omega
      simp only [denoted?, scientific, List.cons_append,
        List.nil_append] at parts ⊢
      rw [parts]
      simp only [readExponent?_signed, Option.map_some, place, List.cons_append,
        List.nil_append]
      rfl

end Layout

/-! ## Shortest digits -/

def scaledDown (candidate : Nat) : ℚ :=
  candidate * (10 : ℚ) ^ (-(expansionScale : Int))

theorem scaledDown_mul_pow (digits dropped : Nat) :
    scaledDown (digits * 10 ^ dropped) =
      digits * (10 : ℚ) ^ ((dropped : Int) - expansionScale) := by
  unfold scaledDown
  generalize expansionScale = scale
  rw [Nat.cast_mul, Nat.cast_pow, mul_assoc, sub_eq_add_neg,
    zpow_add₀ (by norm_num), zpow_natCast, Nat.cast_ofNat]

theorem scaledDown_injective : Function.Injective scaledDown := by
  intro left right equal
  have nonzero (scale : Nat) : (10 : ℚ) ^ (-(scale : Int)) ≠ 0 :=
    zpow_ne_zero _ (by norm_num)
  exact Nat.cast_injective (mul_right_cancel₀ (nonzero expansionScale) equal)

theorem readsAs_expansion (rank : Nat) :
    readsAs rank (expansion rank) = true := by
  have positive (scale : Nat) : 0 < Nat.pow 5 scale := Nat.pow_pos (by decide)
  rw [readsAs, expansion,
    BinaryFormat.nearest_units _ _ (positive expansionScale), beq_self_eq_true]

theorem readsAs_of_onGrid? {rank grid digits : Nat}
    (found : onGrid? rank grid = some digits) :
    readsAs rank (digits * grid) = true := by
  unfold onGrid? at found
  simp only at found
  split at found
  next reads => exact Option.some.inj found ▸ reads
  next =>
    split at found
    next reads => exact Option.some.inj found ▸ reads
    next =>
      split at found
      next reads => exact Option.some.inj found ▸ reads
      next => cases found

/-- The shortest digits stand for a decimal that reads back. -/
theorem exists_candidate (rank : Nat) :
    ∃ candidate, readsAs rank candidate = true ∧
      ((shortest rank).1 : ℚ) * 10 ^ (shortest rank).2 =
        scaledDown candidate := by
  rw [shortest]
  generalize attempt : List.findSome? _ _ = found
  cases found with
  | none =>
    refine ⟨expansion rank, readsAs_expansion rank, ?_⟩
    rw [Option.getD_none, scaledDown]
  | some found =>
    obtain ⟨kept, -, chosen⟩ := List.exists_of_findSome?_eq_some attempt
    obtain ⟨digits, onGrid, rfl⟩ := Option.map_eq_some_iff.mp chosen
    refine ⟨_, readsAs_of_onGrid? onGrid, ?_⟩
    rw [Option.getD_some]
    exact (scaledDown_mul_pow digits _).symm

theorem placed_significantDigits (value : Nat) (scale : Int) :
    placed (significantDigits (Text.decimal value))
      (scale + (Text.decimal value).length - 1) = value * (10 : ℚ) ^ scale := by
  obtain ⟨count, parted⟩ := exists_zeros_significantDigits (Text.decimal value)
  generalize significantDigits (Text.decimal value) = significant at parted ⊢
  have digits := digitsValue_append_zeros significant count
  rw [← parted, digitsValue_decimal] at digits
  have length := congrArg List.length parted
  rw [List.length_append, List.length_replicate] at length
  have place : scale + (Text.decimal value).length - 1 + 1 - significant.length =
      count + scale := by
    omega
  rw [placed, place, digits, zpow_add₀ (by norm_num), ← mul_assoc, zpow_natCast,
    Nat.cast_mul, Nat.cast_pow, Nat.cast_ofNat]

theorem isDigit_of_mem_significantDigits {value : Nat} {c : Char}
    (member : c ∈ significantDigits (Text.decimal value)) : c.isDigit = true := by
  obtain ⟨count, parted⟩ := exists_zeros_significantDigits (Text.decimal value)
  have inside : c ∈ Text.decimal value := by
    rw [parted]
    exact List.mem_append_left _ member
  exact isDigit_of_mem_decimal inside

theorem denoted?_magnitudeText (rank : Nat) :
    ∃ candidate, readsAs rank candidate = true ∧
      denoted? (magnitudeText rank) = some (scaledDown candidate) := by
  by_cases zero : rank = 0
  · subst zero
    have nothing : expansion 0 = 0 := by
      have least : BinaryFormat.double.units 0 = 0 := rfl
      rw [expansion, least, Nat.zero_mul]
    refine ⟨expansion 0, readsAs_expansion 0, ?_⟩
    have zero : ∀ c ∈ ['0'], c.isDigit = true := by simp
    have read := denoted?_point zero zero
    rw [nothing, magnitudeText, if_pos rfl, scaledDown, Nat.cast_zero, zero_mul]
    simpa [digitsValue] using read
  · obtain ⟨candidate, reads, value⟩ := exists_candidate rank
    refine ⟨candidate, reads, ?_⟩
    rw [magnitudeText, if_neg zero]
    -- The digits of a rank must not be computed here.
    generalize shortest rank = found at value ⊢
    obtain ⟨digits, scale⟩ := found
    rw [← value, ← placed_significantDigits]
    simp only
    split
    · exact denoted?_plain _ fun c member =>
        isDigit_of_mem_significantDigits member
    · exact denoted?_scientific _ fun c member =>
        isDigit_of_mem_significantDigits member

/-! ## Different numbers -/

theorem magnitudeText_injective : Function.Injective magnitudeText := by
  intro left right equal
  obtain ⟨candidate, reads, denoted⟩ := denoted?_magnitudeText left
  obtain ⟨other, otherReads, otherDenoted⟩ := denoted?_magnitudeText right
  rw [equal, otherDenoted] at denoted
  have same : other = candidate := scaledDown_injective (Option.some.inj denoted)
  rw [readsAs, beq_iff_eq] at reads otherReads
  rw [← reads, ← otherReads, same]

theorem magnitudeText_ne_signed (rank : Nat) (rest : List Char) :
    magnitudeText rank ≠ '-' :: rest := by
  intro signed
  obtain ⟨candidate, -, denoted⟩ := denoted?_magnitudeText rank
  rw [signed, denoted?] at denoted
  simp [splitDecimal, readExponent?] at denoted

/-- No two numbers have the same text; the two forms of zero differ by their
sign. -/
theorem text_injective : Function.Injective text := by
  intro left right equal
  rcases left with ⟨negative, rank, finite⟩
  rcases right with ⟨otherNegative, otherRank, otherFinite⟩
  unfold text at equal
  cases negative <;> cases otherNegative <;>
    simp only [Bool.false_eq_true, if_true, if_false] at equal
  · cases magnitudeText_injective equal
    rfl
  · exact absurd equal (magnitudeText_ne_signed rank _)
  · exact absurd equal.symm (magnitudeText_ne_signed otherRank _)
  · cases magnitudeText_injective (List.cons.inj equal).2
    rfl

/-! ## Characters -/

def isNumeric (c : Char) : Bool := c.isDigit || ['.', 'e', '+', '-'].contains c

theorem isNumeric_of_isDigit {c : Char} (digit : c.isDigit = true) :
    isNumeric c = true := by
  simp [isNumeric, digit]

section Numeric

variable {digits : List Char} (exponent : Int)

theorem isNumeric_of_mem_plain (all : ∀ c ∈ digits, isNumeric c = true) :
    ∀ c ∈ plain digits exponent, isNumeric c = true := by
  have zeros (count : Nat) : ∀ c ∈ List.replicate count '0',
      isNumeric c = true := by
    intro c member
    rw [List.eq_of_mem_replicate member]
    rfl
  have zero : isNumeric '0' = true := rfl
  have point : isNumeric '.' = true := rfl
  intro c member
  rw [plain] at member
  split at member
  · simp only [List.mem_cons, List.mem_append] at member
    rcases member with rfl | rfl | place | digit
    · exact zero
    · exact point
    · exact zeros _ c place
    · exact all c digit
  · simp only at member
    split at member
    · simp only [List.mem_cons, List.mem_append, List.not_mem_nil,
        or_false] at member
      rcases member with (digit | place) | rfl | rfl
      · exact all c digit
      · exact zeros _ c place
      · exact point
      · exact zero
    · simp only [List.mem_cons, List.mem_append] at member
      rcases member with digit | rfl | digit
      · exact all c (List.mem_of_mem_take digit)
      · exact point
      · exact all c (List.mem_of_mem_drop digit)

theorem scientific_eq_mantissa (digits : List Char) :
    ∃ mantissa, (∀ c ∈ mantissa, c = '.' ∨ c ∈ digits) ∧
      scientific digits exponent = mantissa ++ 'e' ::
        (if exponent < 0 then '-' else '+') ::
        Text.decimal exponent.natAbs := by
  match digits with
  | [] => exact ⟨[], by simp, rfl⟩
  | [first] => exact ⟨[first], by simp, rfl⟩
  | first :: second :: rest =>
    refine ⟨first :: '.' :: second :: rest, ?_, rfl⟩
    intro c member
    simp only [List.mem_cons] at member ⊢
    tauto

theorem isNumeric_of_mem_scientific (all : ∀ c ∈ digits, isNumeric c = true) :
    ∀ c ∈ scientific digits exponent, isNumeric c = true := by
  obtain ⟨mantissa, inside, parted⟩ := scientific_eq_mantissa exponent digits
  intro c member
  rw [parted] at member
  simp only [List.mem_append, List.mem_cons] at member
  rcases member with before | rfl | rfl | digit
  · rcases inside c before with rfl | digit
    · rfl
    · exact all c digit
  · rfl
  · split <;> rfl
  · exact isNumeric_of_isDigit (isDigit_of_mem_decimal digit)

theorem point_mem_plain : '.' ∈ plain digits exponent := by
  rw [plain]
  split
  · simp
  · simp only
    split <;> simp

theorem mark_mem_scientific : 'e' ∈ scientific digits exponent := by
  obtain ⟨mantissa, -, parted⟩ := scientific_eq_mantissa exponent digits
  rw [parted]
  simp

end Numeric

/-- The text of a magnitude is made of numeric characters, and one of them tells
it apart from the text of an integer. -/
theorem characters_magnitudeText (rank : Nat) :
    (∀ c ∈ magnitudeText rank, isNumeric c = true) ∧
      ('.' ∈ magnitudeText rank ∨ 'e' ∈ magnitudeText rank) := by
  rw [magnitudeText]
  generalize shortest rank = found
  obtain ⟨value, scale⟩ := found
  have digits : ∀ c ∈ significantDigits (Text.decimal value),
      isNumeric c = true :=
    fun c member => isNumeric_of_isDigit (isDigit_of_mem_significantDigits member)
  simp only
  split
  · have zero : isNumeric '0' = true := rfl
    have point : isNumeric '.' = true := rfl
    simp [zero, point]
  · split
    · exact ⟨isNumeric_of_mem_plain _ digits, .inl (point_mem_plain _)⟩
    · exact ⟨isNumeric_of_mem_scientific _ digits, .inr (mark_mem_scientific _)⟩

theorem characters_text (value : Double) :
    (∀ c ∈ value.text, isNumeric c = true) ∧
    ('.' ∈ value.text ∨ 'e' ∈ value.text) := by
  have magnitude := characters_magnitudeText value.rank
  rw [text]
  split
  · constructor
    · simpa only [List.forall_mem_cons] using ⟨rfl, magnitude.1⟩
    · exact magnitude.2.imp (List.mem_cons_of_mem _) (List.mem_cons_of_mem _)
  · exact magnitude

end Double

end CriteriaQuery
