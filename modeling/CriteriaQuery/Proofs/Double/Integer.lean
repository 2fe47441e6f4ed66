import CriteriaQuery.Json.Order
import CriteriaQuery.Proofs.Double.Rounding
import Mathlib.Order.Monotone.Basic
import Mathlib.Tactic.SplitIfs

namespace CriteriaQuery

/-! Which double an integer becomes. Rounding to the nearest double keeps the
order of integers, and on integers it is rounding to 53 binary digits, with ties
to the even neighbour. -/

theorem roundHalfEven_mono {left right denominator : Nat} (le : left ≤ right) :
    roundHalfEven left denominator ≤ roundHalfEven right denominator := by
  have quotients : left / denominator ≤ right / denominator :=
    Nat.div_le_div_right le
  have leftParts := Nat.div_add_mod left denominator
  have rightParts := Nat.div_add_mod right denominator
  unfold roundHalfEven
  dsimp only
  by_cases same : left / denominator = right / denominator
  · rw [same] at leftParts ⊢
    have rests : left % denominator ≤ right % denominator := by omega
    split_ifs <;> omega
  · split_ifs <;> omega

theorem roundHalfEven_mul_mul {factor : Nat} (positive : 0 < factor)
    (numerator denominator : Nat) :
    roundHalfEven (numerator * factor) (denominator * factor) =
      roundHalfEven numerator denominator := by
  have doubled : 2 * (numerator % denominator * factor) =
      2 * (numerator % denominator) * factor :=
    (Nat.mul_assoc _ _ _).symm
  unfold roundHalfEven
  simp only [Nat.mul_div_mul_right _ _ positive, Nat.mul_mod_mul_right, doubled,
    Nat.mul_lt_mul_right positive]

theorem roundHalfEven_shiftLeft (numerator denominator shift : Nat) :
    roundHalfEven (numerator <<< shift) (denominator <<< shift) =
      roundHalfEven numerator denominator := by
  rw [Nat.shiftLeft_eq, Nat.shiftLeft_eq,
    roundHalfEven_mul_mul (Nat.two_pow_pos shift)]

theorem lt_two_pow_bitLength (value : Nat) : value < 2 ^ bitLength value := by
  unfold bitLength
  split
  · next zero => simp [zero]
  · exact Nat.lt_log2_self

theorem two_pow_le_of_bitLength {value length : Nat}
    (long : length < bitLength value) : 2 ^ length ≤ value := by
  unfold bitLength at long
  split at long
  · omega
  · next nonzero =>
    exact (Nat.le_log2 nonzero).mp (by omega)

namespace BinaryFormat

variable (format : BinaryFormat)

theorem units_of_parts {shift significand : Nat}
    (high : significand ≤ 2 ^ (format.fractionBits + 1))
    (low : shift ≠ 0 → 2 ^ format.fractionBits ≤ significand) :
    format.units ((shift <<< format.fractionBits) + significand) =
      significand <<< shift := by
  have positive := Nat.two_pow_pos format.fractionBits
  rw [Nat.pow_succ] at high
  unfold units BinaryFormat.significand BinaryFormat.shift
  simp only [Nat.shiftRight_eq_div_pow, Nat.shiftLeft_eq]
  generalize 2 ^ format.fractionBits = step at *
  rw [Nat.add_comm (shift * step), Nat.add_mul_div_right _ _ positive]
  by_cases small : significand < step
  · have none : shift = 0 := by
      by_contra shifted
      have := low shifted
      omega
    subst none
    rw [Nat.div_eq_of_lt small]
    simp
  · by_cases full : significand = 2 * step
    · subst full
      rw [Nat.mul_div_cancel _ positive]
      have next : 2 + shift - 1 = shift + 1 := by omega
      have rest : 2 * step + shift * step - (shift + 1) * step = step := by
        rw [Nat.add_mul, Nat.one_mul]
        omega
      rw [next, rest, Nat.pow_succ]
      ring
    · have one : significand / step = 1 := by
        rw [Nat.div_eq_iff positive]
        omega
      have same : 1 + shift - 1 = shift := by omega
      rw [one, same, Nat.add_sub_cancel]

theorem units_strictMono : StrictMono format.units := by
  refine strictMono_nat_of_lt_succ fun rank => ?_
  have successor : rank + 1 =
      (format.shift rank <<< format.fractionBits) +
      (format.significand rank + 1) := by
    rw [← Nat.add_assoc, shift_add_significand]
  have high := format.significand_lt rank
  have low := format.le_significand rank
  rw [successor,
    format.units_of_parts (by omega)
    (fun shifted => by have := low shifted; omega),
    units, Nat.shiftLeft_eq, Nat.shiftLeft_eq]
  exact Nat.mul_lt_mul_of_pos_right (by omega) (Nat.two_pow_pos _)

/-- The value of the rank nearest to a quotient is the quotient rounded to the
digits of a significand. -/
theorem units_nearest {denominator : Nat} (positive : 0 < denominator)
    (numerator : Nat) {shift : Nat}
    (isShift : shift = bitLength (numerator / denominator) -
      (format.fractionBits + 1)) :
    format.units (format.nearest numerator denominator) =
      roundHalfEven numerator (denominator <<< shift) <<< shift := by
  have scaled : 0 < denominator * 2 ^ shift :=
    Nat.mul_pos positive (Nat.two_pow_pos _)
  unfold nearest
  dsimp only
  rw [← isShift, Nat.shiftLeft_eq denominator]
  refine format.units_of_parts ?_ fun shifted => ?_
  · have below : numerator ≤ 2 ^ (format.fractionBits + 1) *
        (denominator * 2 ^ shift) := by
      have quotient : numerator / denominator <
          2 ^ (format.fractionBits + 1 + shift) :=
        (lt_two_pow_bitLength _).trans_le
          (Nat.pow_le_pow_right (by decide) (by omega))
      have whole := (Nat.div_lt_iff_lt_mul positive).mp quotient
      calc numerator ≤ 2 ^ (format.fractionBits + 1 + shift) *
        denominator := whole.le
        _ = 2 ^ (format.fractionBits + 1) * (denominator * 2 ^ shift) := by ring
    rw [← roundHalfEven_mul scaled (2 ^ (format.fractionBits + 1))]
    exact roundHalfEven_mono below
  · have above : 2 ^ format.fractionBits * (denominator * 2 ^ shift) ≤
        numerator := by
      have quotient : 2 ^ (format.fractionBits + shift) ≤
          numerator / denominator :=
        two_pow_le_of_bitLength (by omega)
      calc 2 ^ format.fractionBits * (denominator * 2 ^ shift)
          = 2 ^ (format.fractionBits + shift) * denominator := by ring
        _ ≤ numerator := (Nat.le_div_iff_mul_le positive).mp quotient
    rw [← roundHalfEven_mul scaled (2 ^ format.fractionBits)]
    exact roundHalfEven_mono above

def roundNatural (value : Nat) : Nat :=
  let dropped := bitLength value - (format.fractionBits + 1)
  roundHalfEven value (1 <<< dropped) <<< dropped

theorem units_nearest_natural (deep : format.fractionBits < format.scale)
    (value : Nat) :
    format.units (format.nearest (value <<< format.scale) 1) =
      format.roundNatural value <<< format.scale := by
  by_cases zero : value = 0
  · subst zero
    rw [format.units_nearest Nat.one_pos _ rfl]
    simp [roundNatural, bitLength, roundHalfEven]
  have digits := bitLength_shiftLeft zero format.scale
  have some : 0 < bitLength value := by
    unfold bitLength
    split <;> omega
  rw [format.units_nearest Nat.one_pos _ rfl, Nat.div_one, digits, roundNatural]
  by_cases long : format.fractionBits + 1 ≤ bitLength value
  · have parted : bitLength value + format.scale - (format.fractionBits + 1) =
        bitLength value - (format.fractionBits + 1) + format.scale := by omega
    rw [parted, Nat.shiftLeft_add, Nat.shiftLeft_add, roundHalfEven_shiftLeft]
  · have kept : bitLength value - (format.fractionBits + 1) = 0 := by omega
    obtain ⟨spare, whole⟩ : ∃ spare, format.scale =
        spare + (bitLength value + format.scale - (format.fractionBits + 1)) :=
      ⟨format.fractionBits + 1 - bitLength value, by omega⟩
    generalize bitLength value + format.scale -
      (format.fractionBits + 1) = shift at *
    have exact (value : Nat) : roundHalfEven value 1 = value := by
      simpa using roundHalfEven_mul Nat.one_pos value
    rw [kept, Nat.shiftLeft_zero, Nat.shiftLeft_zero, exact, whole,
      Nat.shiftLeft_add, roundHalfEven_shiftLeft, exact]

theorem nearest_natural_lt_iff (deep : format.fractionBits < format.scale)
    (left right : Nat) :
    format.nearest (left <<< format.scale) 1 <
      format.nearest (right <<< format.scale) 1 ↔
      format.roundNatural left < format.roundNatural right := by
  rw [← format.units_strictMono.lt_iff_lt, format.units_nearest_natural deep,
    format.units_nearest_natural deep, Nat.shiftLeft_eq, Nat.shiftLeft_eq,
    Nat.mul_lt_mul_right (Nat.two_pow_pos _)]

/-! ## Rounded natural numbers -/

variable {format}

theorem roundNatural_of_bitLength_le {value : Nat}
    (short : bitLength value ≤ format.fractionBits + 1) :
    format.roundNatural value = value := by
  have kept : bitLength value - (format.fractionBits + 1) = 0 := by omega
  rw [roundNatural, kept]
  simpa using roundHalfEven_mul Nat.one_pos value

theorem roundNatural_le_two_pow {value exponent : Nat}
    (le : value ≤ 2 ^ exponent) : format.roundNatural value ≤ 2 ^ exponent := by
  have digits : bitLength value ≤ exponent + 1 := by
    by_contra long
    have := two_pow_le_of_bitLength (show exponent + 1 < bitLength value by omega)
    have := Nat.two_pow_pos exponent
    rw [Nat.pow_succ] at *
    omega
  unfold roundNatural
  generalize drops : bitLength value - (format.fractionBits + 1) = dropped
  obtain ⟨rest, rfl⟩ : ∃ rest, exponent = rest + dropped :=
    ⟨exponent - dropped, by omega⟩
  rw [Nat.pow_add] at le ⊢
  have rounded : roundHalfEven value (2 ^ dropped) ≤ _ := roundHalfEven_mono le
  rw [roundHalfEven_mul (Nat.two_pow_pos _)] at rounded
  dsimp only
  rw [Nat.one_shiftLeft, Nat.shiftLeft_eq]
  exact Nat.mul_le_mul_right _ rounded

theorem two_pow_le_roundNatural {value exponent : Nat}
    (le : 2 ^ exponent ≤ value) : 2 ^ exponent ≤ format.roundNatural value := by
  have digits : exponent < bitLength value := by
    have below := lt_two_pow_bitLength value
    exact (Nat.pow_lt_pow_iff_right (by decide)).mp (le.trans_lt below)
  have leading : 2 ^ (bitLength value - 1) ≤ value :=
    two_pow_le_of_bitLength (by omega)
  refine (Nat.pow_le_pow_right (by decide)
    (by omega : exponent ≤ bitLength value - 1)).trans ?_
  unfold roundNatural
  generalize drops : bitLength value - (format.fractionBits + 1) = dropped
  obtain ⟨rest, split⟩ : ∃ rest, bitLength value - 1 = rest + dropped :=
    ⟨bitLength value - 1 - dropped, by omega⟩
  rw [split, Nat.pow_add] at leading ⊢
  have rounded : _ ≤ roundHalfEven value (2 ^ dropped) :=
    roundHalfEven_mono leading
  rw [roundHalfEven_mul (Nat.two_pow_pos _)] at rounded
  dsimp only
  rw [Nat.one_shiftLeft, Nat.shiftLeft_eq]
  exact Nat.mul_le_mul_right _ rounded

theorem roundNatural_mono : Monotone format.roundNatural := by
  intro left right le
  have digits : bitLength left ≤ bitLength right := by
    by_contra long
    have := two_pow_le_of_bitLength (Nat.not_le.mp long)
    have := lt_two_pow_bitLength right
    omega
  by_cases same : bitLength left = bitLength right
  · unfold roundNatural
    rw [same]
    simp only [Nat.shiftLeft_eq]
    exact Nat.mul_le_mul_right _ (roundHalfEven_mono le)
  · have above : 2 ^ bitLength left ≤ right := two_pow_le_of_bitLength (by omega)
    calc format.roundNatural left ≤ 2 ^ bitLength left :=
          roundNatural_le_two_pow (lt_two_pow_bitLength left).le
      _ ≤ format.roundNatural right := two_pow_le_roundNatural above

theorem roundNatural_of_le {value : Nat}
    (le : value ≤ 2 ^ (format.fractionBits + 1)) :
    format.roundNatural value = value := by
  by_cases full : value = 2 ^ (format.fractionBits + 1)
  · subst full
    exact le_antisymm (roundNatural_le_two_pow le) (two_pow_le_roundNatural le)
  · refine roundNatural_of_bitLength_le ?_
    by_contra long
    have := two_pow_le_of_bitLength (Nat.not_le.mp long)
    omega

end BinaryFormat

namespace Double

/-- An integer rounded to the 53 leading digits of its magnitude, ties to even:
the value of the nearest float. -/
def roundInteger (value : Int) : Int :=
  let magnitude : Int := BinaryFormat.double.roundNatural value.natAbs
  if value < 0 then -magnitude else magnitude

example :
    roundInteger (2 ^ 53 + 1) = 2 ^ 53 ∧
    roundInteger (-(2 ^ 53 + 3)) = -(2 ^ 53 + 4) := by
  decide +kernel

theorem roundInteger_mono {left right : Int} (le : left ≤ right) :
    roundInteger left ≤ roundInteger right := by
  unfold roundInteger
  have upward : left.natAbs ≤ right.natAbs →
      BinaryFormat.double.roundNatural left.natAbs ≤
        BinaryFormat.double.roundNatural right.natAbs :=
        fun le => BinaryFormat.roundNatural_mono le
  have downward : right.natAbs ≤ left.natAbs →
      BinaryFormat.double.roundNatural right.natAbs ≤
        BinaryFormat.double.roundNatural left.natAbs :=
        fun le => BinaryFormat.roundNatural_mono le
  dsimp only
  split <;> split <;> omega

theorem roundInteger_of_natAbs_le {value : Int} (small : value.natAbs ≤ 2 ^ 53) :
    roundInteger value = value := by
  have exact : BinaryFormat.double.roundNatural value.natAbs = value.natAbs :=
    BinaryFormat.roundNatural_of_le small
  unfold roundInteger
  rw [exact]
  dsimp only
  split <;> omega

theorem le_natAbs_roundInteger {value : Int} (large : 2 ^ 53 ≤ value.natAbs) :
    2 ^ 53 ≤ (roundInteger value).natAbs := by
  have rounded : 2 ^ 53 ≤ BinaryFormat.double.roundNatural value.natAbs :=
    BinaryFormat.two_pow_le_roundNatural large
  unfold roundInteger
  dsimp only
  split <;> omega

/-- Rounding keeps an integer apart from all others, if its magnitude has no more
than 53 digits. -/
theorem eq_of_roundInteger_eq {left right : Int} (small : left.natAbs < 2 ^ 53)
    (same : roundInteger left = roundInteger right) : left = right := by
  rw [roundInteger_of_natAbs_le small.le] at same
  have smallRight : right.natAbs < 2 ^ 53 := by
    by_contra large
    have := le_natAbs_roundInteger (Nat.not_lt.mp large)
    omega
  rwa [roundInteger_of_natAbs_le smallRight.le] at same

end Double

namespace Number

theorem key_integer_lt_iff {left right : Int}
    (leftLow leftHigh rightLow rightHigh) :
    (integer left leftLow leftHigh).key < (integer right rightLow rightHigh).key ↔
      Double.roundInteger left < Double.roundInteger right := by
  have magnitudes (value other : Nat) :=
    BinaryFormat.double.nearest_natural_lt_iff (by decide) value other
  have ranked := magnitudes left.natAbs right.natAbs
  have rankedBack := magnitudes right.natAbs left.natAbs
  have leftPositive := magnitudes 0 left.natAbs
  have rightPositive := magnitudes 0 right.natAbs
  have zero : BinaryFormat.double.nearest (0 <<< BinaryFormat.double.scale) 1 =
    0 := by decide
  have roundedZero : BinaryFormat.double.roundNatural 0 = 0 := by decide
  rw [zero, roundedZero] at leftPositive rightPositive
  unfold key Double.roundInteger
  dsimp only
  split <;> split <;> omega

theorem compare_key_integer {left right : Int}
    (leftLow leftHigh rightLow rightHigh) :
    compare (integer left leftLow leftHigh).key
      (integer right rightLow rightHigh).key =
      compare (Double.roundInteger left) (Double.roundInteger right) := by
  have before := key_integer_lt_iff leftLow leftHigh rightLow rightHigh
  have after := key_integer_lt_iff rightLow rightHigh leftLow leftHigh
  cases order : compare (Double.roundInteger left)
      (Double.roundInteger right) with
  | lt =>
    rw [Int.compare_eq_lt] at order ⊢
    exact before.mpr order
  | gt =>
    rw [Int.compare_eq_gt] at order ⊢
    exact after.mpr order
  | eq =>
    rw [Int.compare_eq_eq] at order ⊢
    omega

end Number

end CriteriaQuery
