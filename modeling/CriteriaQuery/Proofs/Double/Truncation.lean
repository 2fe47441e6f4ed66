import CriteriaQuery.Proofs.Double.Rounding
import Mathlib.Data.Rat.Floor
import Mathlib.Tactic.Linarith
import Mathlib.Tactic.Positivity

namespace CriteriaQuery

/-! Floats as the rational numbers that they stand for, and their integer parts.
From two to the power of 53 on, every float is an integer, so the integer part
tells on which side of a larger power of two the float is. -/

/-! ## Rational numbers -/

def towardZero (number : ℚ) : ℤ := if number < 0 then ⌈number⌉ else ⌊number⌋

theorem towardZero_intCast (number : ℤ) : towardZero number = number := by
  rw [towardZero, Int.ceil_intCast, Int.floor_intCast, ite_self]

theorem towardZero_neg (number : ℚ) :
    towardZero (-number) = -towardZero number := by
  rw [towardZero, towardZero, Int.ceil_neg, Int.floor_neg]
  rcases lt_trichotomy number 0 with negative | rfl | positive
  · rw [if_neg (by linarith), if_pos negative]
  · simp
  · rw [if_pos (by linarith), if_neg (by linarith)]

theorem towardZero_lt_iff {number : ℚ} {limit : ℤ} (positive : 0 < limit) :
    towardZero number < limit ↔ number < limit := by
  unfold towardZero
  split
  next negative =>
    have part : ⌈number⌉ ≤ 0 := Int.ceil_le.mpr (by exact_mod_cast negative.le)
    have above : (0 : ℚ) < limit := by exact_mod_cast positive
    exact iff_of_true (by omega) (negative.trans above)
  next => exact Int.floor_lt

theorem le_towardZero_iff {number : ℚ} {limit : ℤ} (notNegative : 0 ≤ limit) :
    -limit ≤ towardZero number ↔ -(limit + 1 : ℚ) < number := by
  calc -limit ≤ towardZero number
      ↔ towardZero (-number) < limit + 1 := by
        rw [towardZero_neg]
        omega
    _ ↔ -number < (limit + 1 : ℤ) := towardZero_lt_iff (by omega)
    _ ↔ -(limit + 1 : ℚ) < number := by
        rw [Int.cast_add, Int.cast_one]
        exact neg_lt

/-! ## Floats -/

/-- Past the significand, values are multiples of a power of two. -/
theorem BinaryFormat.two_pow_dvd_units (format : BinaryFormat)
    {rank exponent : Nat}
    (large : 2 ^ (format.fractionBits + 1 + exponent) ≤ format.units rank) :
    2 ^ exponent ∣ format.units rank := by
  have small := format.significand_lt rank
  have shifted : exponent ≤ format.shift rank := by
    by_contra short
    have below : format.units rank <
        2 ^ (format.fractionBits + 1 + exponent) := by
      calc format.units rank
          = format.significand rank * 2 ^ format.shift rank :=
            Nat.shiftLeft_eq _ _
        _ < 2 ^ (format.fractionBits + 1) * 2 ^ format.shift rank :=
          Nat.mul_lt_mul_of_pos_right small (Nat.two_pow_pos _)
        _ ≤ 2 ^ (format.fractionBits + 1) * 2 ^ exponent :=
          Nat.mul_le_mul_left _ (Nat.pow_le_pow_right (by decide) (by omega))
        _ = 2 ^ (format.fractionBits + 1 + exponent) := (Nat.pow_add _ _ _).symm
    omega
  rw [units, Nat.shiftLeft_eq]
  exact Nat.dvd_mul_left_of_dvd (Nat.pow_dvd_pow 2 shifted) _

namespace Double

def toRat (value : Double) : ℚ :=
  let magnitude : ℚ := value.units / 2 ^ BinaryFormat.double.scale
  if value.negative then -magnitude else magnitude

theorem abs_toRat (value : Double) :
    |value.toRat| = value.units / 2 ^ BinaryFormat.double.scale := by
  have magnitude : (0 : ℚ) ≤ value.units / 2 ^ BinaryFormat.double.scale := by
    positivity
  unfold toRat
  split
  · rw [abs_neg, abs_of_nonneg magnitude]
  · exact abs_of_nonneg magnitude

theorem truncate_eq_towardZero (value : Double) :
    value.truncate = towardZero value.toRat := by
  have magnitude : (0 : ℚ) ≤ value.units / 2 ^ BinaryFormat.double.scale := by
    positivity
  have part : towardZero (value.units / 2 ^ BinaryFormat.double.scale) =
      (value.units >>> BinaryFormat.double.scale : Nat) := by
    have quotient :=
      Rat.floor_natCast_div_natCast value.units (2 ^ BinaryFormat.double.scale)
    rw [Nat.cast_pow, Nat.cast_ofNat] at quotient
    rw [towardZero, if_neg (not_lt.mpr magnitude), quotient,
      Nat.shiftRight_eq_div_pow]
    rfl
  unfold truncate toRat
  dsimp only
  split
  · rw [towardZero_neg, part]
  · exact part.symm

theorem exists_int_of_le_abs {value : Double} (large : 2 ^ 53 ≤ |value.toRat|) :
    ∃ integer : ℤ, value.toRat = integer := by
  have scale : (0 : ℚ) < 2 ^ BinaryFormat.double.scale := by positivity
  rw [abs_toRat, le_div_iff₀ scale, ← pow_add] at large
  have bits : BinaryFormat.double.fractionBits + 1 = 53 := rfl
  have long :
      ((2 ^ (BinaryFormat.double.fractionBits + 1 + BinaryFormat.double.scale) :
      Nat) : ℚ) ≤
      (BinaryFormat.double.units value.rank : Nat) := by
    rw [Nat.cast_pow, Nat.cast_ofNat, bits]
    exact large
  rcases BinaryFormat.double.two_pow_dvd_units (Nat.cast_le.mp long) with
    ⟨factor, multiple⟩
  have whole : (value.units : ℚ) / 2 ^ BinaryFormat.double.scale = factor := by
    rw [units, multiple, Nat.cast_mul, Nat.cast_pow, Nat.cast_ofNat]
    exact mul_div_cancel_left₀ _ scale.ne'
  unfold toRat
  dsimp only
  rw [whole]
  split
  · exact ⟨-factor, by simp⟩
  · exact ⟨factor, by simp⟩

/-- The integer part fits 64 bits with a sign just when the float is in their
range. -/
theorem truncate_fits_iff (value : Double) :
    (-(1 <<< 63) ≤ value.truncate ∧ value.truncate < 1 <<< 63) ↔
      -2 ^ 63 ≤ value.toRat ∧ value.toRat < 2 ^ 63 := by
  rw [truncate_eq_towardZero, show (1 <<< 63 : Int) = 2 ^ 63 by decide,
    towardZero_lt_iff (by decide), le_towardZero_iff (by decide)]
  push_cast
  refine and_congr_left fun _ => ⟨fun near => ?_, fun within => by linarith⟩
  -- The integer part leaves room for a fraction below the range. Floats there
  -- have none.
  by_contra outside
  rw [not_le] at outside
  have large : 2 ^ 53 ≤ |value.toRat| := by
    rw [abs_of_neg (by linarith)]
    linarith
  rcases exists_int_of_le_abs large with ⟨integer, same⟩
  rw [same] at near outside
  have above : -(2 ^ 63 + 1) < integer := by exact_mod_cast near
  have below : integer < -2 ^ 63 := by exact_mod_cast outside
  omega

end Double

end CriteriaQuery
