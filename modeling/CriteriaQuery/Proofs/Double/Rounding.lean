import CriteriaQuery.Double.Basic
import Mathlib.Tactic.Ring

namespace CriteriaQuery

/-! Rounding gives back what a format can represent: the value of a rank, however
it is written as a quotient, is nearest to that rank. -/

theorem roundHalfEven_mul {denominator : Nat} (positive : 0 < denominator)
    (value : Nat) :
    roundHalfEven (value * denominator) denominator = value := by
  unfold roundHalfEven
  simp only [Nat.mul_div_cancel value positive, Nat.mul_mod_left, Nat.mul_zero,
    positive, if_true]

theorem bitLength_shiftLeft {value : Nat} (nonzero : value ≠ 0) (shift : Nat) :
    bitLength (value <<< shift) = bitLength value + shift := by
  have shifted (shift : Nat) : value <<< shift ≠ 0 := by
    simpa [Nat.shiftLeft_eq] using nonzero
  have doubled : Nat.log2 (value <<< shift) = Nat.log2 value + shift := by
    induction shift with
    | zero => rfl
    | succ shift induction =>
      rw [Nat.shiftLeft_succ, Nat.log2_two_mul (shifted shift), induction]
      rfl
  rw [bitLength, bitLength, if_neg nonzero, if_neg (shifted shift), doubled]
  omega

namespace BinaryFormat

variable (format : BinaryFormat) (rank : Nat)

/-- A rank is its shift, in steps of a power of two, and its significand. -/
theorem shift_add_significand :
    (format.shift rank <<< format.fractionBits) +
    format.significand rank = rank := by
  have below : format.shift rank <<< format.fractionBits ≤ rank := by
    rw [shift, Nat.shiftRight_eq_div_pow, Nat.shiftLeft_eq]
    have whole := Nat.div_mul_le_self rank (2 ^ format.fractionBits)
    have fewer : (rank / 2 ^ format.fractionBits - 1) * 2 ^ format.fractionBits ≤
        rank / 2 ^ format.fractionBits * 2 ^ format.fractionBits :=
      Nat.mul_le_mul_right _ (Nat.sub_le _ _)
    omega
  unfold significand
  omega

theorem significand_lt :
    format.significand rank < 2 ^ (format.fractionBits + 1) := by
  have split := Nat.div_add_mod rank (2 ^ format.fractionBits)
  have rest := Nat.mod_lt rank (Nat.two_pow_pos format.fractionBits)
  rw [significand, shift, Nat.shiftRight_eq_div_pow,
    Nat.shiftLeft_eq, Nat.pow_succ]
  cases parts : rank / 2 ^ format.fractionBits with
  | zero =>
    rw [parts] at split
    omega
  | succ before =>
    rw [parts, Nat.mul_comm, Nat.succ_mul] at split
    rw [Nat.succ_sub_one]
    omega

/-- With a shift, the leading bit of the significand is set. -/
theorem le_significand (shifted : format.shift rank ≠ 0) :
    2 ^ format.fractionBits ≤ format.significand rank := by
  have split := Nat.div_add_mod rank (2 ^ format.fractionBits)
  rw [shift, Nat.shiftRight_eq_div_pow] at shifted
  rw [significand, shift, Nat.shiftRight_eq_div_pow, Nat.shiftLeft_eq]
  cases parts : rank / 2 ^ format.fractionBits with
  | zero => exact absurd (by rw [parts]) shifted
  | succ before =>
    rw [parts, Nat.mul_comm, Nat.succ_mul] at split
    rw [Nat.succ_sub_one]
    omega

theorem bitLength_units_sub :
    bitLength (format.units rank) - (format.fractionBits + 1) =
      format.shift rank := by
  have small := format.significand_lt rank
  unfold units
  by_cases zero : format.significand rank = 0
  · have unshifted : format.shift rank = 0 := by
      by_contra shifted
      have large := format.le_significand rank shifted
      have positive := Nat.two_pow_pos format.fractionBits
      omega
    simp [zero, unshifted, bitLength]
  · rw [bitLength_shiftLeft zero, bitLength, if_neg zero]
    have upper : Nat.log2 (format.significand rank) < format.fractionBits + 1 :=
      (Nat.log2_lt zero).mpr small
    by_cases unshifted : format.shift rank = 0
    · omega
    · have lower : format.fractionBits ≤ Nat.log2 (format.significand rank) :=
        (Nat.le_log2 zero).mpr (format.le_significand rank unshifted)
      omega

/-- The value of a rank is nearest to this rank. -/
theorem nearest_units {denominator : Nat} (positive : 0 < denominator) :
    format.nearest (format.units rank * denominator) denominator = rank := by
  have shift : bitLength (format.units rank * denominator / denominator) -
      (format.fractionBits + 1) = format.shift rank := by
    rw [Nat.mul_div_cancel _ positive, bitLength_units_sub]
  have exact : format.units rank * denominator =
      format.significand rank * (denominator <<< format.shift rank) := by
    rw [units, Nat.shiftLeft_eq, Nat.shiftLeft_eq]
    ring
  have scaled : 0 < denominator <<< format.shift rank := by
    rw [Nat.shiftLeft_eq]
    exact Nat.mul_pos positive (Nat.two_pow_pos _)
  unfold nearest
  simp only [shift]
  rw [exact, roundHalfEven_mul scaled, shift_add_significand]

end BinaryFormat

end CriteriaQuery
