import CriteriaQuery.Model.Coercion
import CriteriaQuery.Proofs.Double.Truncation
import CriteriaQuery.Proofs.Text.Numeral
import Mathlib.Data.Int.ModEq

namespace CriteriaQuery

/-! Coercion toward integers. A number in the range of 64 bits with a sign is
cut to its integer part, and of that the bits of the width stay. -/

/-- The number that a value gives, exactly. It is in the range of 64 bits with a
sign, and a text may have blank characters around it. -/
inductive Json.Denotes : Json → ℚ → Prop
  | integer (value : Int) (low high) : value < 2 ^ 63 →
      Denotes (.number (.integer value low high)) value
  | float (value : Double) : -2 ^ 63 ≤ value.toRat → value.toRat < 2 ^ 63 →
      Denotes (.number (.float value)) value.toRat
  | text (text : String) (value : Int) : Text.Spells (Text.trim text).toList
      value → -2 ^ 63 ≤ value → value < 2 ^ 63 → Denotes (.string text) value

namespace Coercion

theorem integer?_eq_some_iff {value : Json} {integer : Int} :
    integer? value = some integer ↔
      ∃ number, value.Denotes number ∧ towardZero number = integer := by
  have power : (1 <<< 63 : Int) = 2 ^ 63 := by decide
  constructor
  · intro found
    cases value with
    | number number =>
      cases number with
      | integer value low high =>
        rw [integer?, Number.toInteger64?,
          Option.ite_none_right_eq_some, power] at found
        · rcases found with ⟨small, same⟩
          cases same
          exact ⟨_, .integer integer low high small, towardZero_intCast integer⟩
        · simp
      | float value =>
        rw [integer?, Option.ite_none_right_eq_some, value.truncate_fits_iff,
          value.truncate_eq_towardZero] at found
        rcases found with ⟨within, same⟩
        cases same
        exact ⟨_, .float value within.1 within.2, rfl⟩
    | string text =>
      rw [integer?, Text.readInteger64?_eq_some_iff, power] at found
      rcases found with ⟨spells, low, high⟩
      exact ⟨_, .text text integer spells low high, towardZero_intCast integer⟩
    | null | bool _ | array _ | object _ => cases found
  · rintro ⟨number, denotes, rfl⟩
    cases denotes with
    | integer value low high small =>
      rw [integer?, Number.toInteger64?, power, if_pos small, towardZero_intCast]
      simp
    | float value low high =>
      rw [integer?, if_pos (value.truncate_fits_iff.mpr ⟨low, high⟩),
        value.truncate_eq_towardZero]
    | text text value spells low high =>
      rw [integer?, Text.readInteger64?_eq_some_iff, power, towardZero_intCast]
      exact ⟨spells, low, high⟩

structure IsWrapped (width : IntegerWidth) (value result : Int) : Prop where
  low : -2 ^ (width.bits - 1) ≤ result
  high : result < 2 ^ (width.bits - 1)
  congruent : result ≡ value [ZMOD 2 ^ width.bits]

theorem wrap_eq_iff {width : IntegerWidth} {value result : Int} :
    wrap width value = result ↔ IsWrapped width value result := by
  have some : 0 < width.bits := by cases width <;> decide
  have modulus : ((1 <<< width.bits : Nat) : Int) = 2 ^ width.bits := by
    rw [Nat.one_shiftLeft, Nat.cast_pow, Nat.cast_ofNat]
  have doubled : (2 : Int) ^ width.bits = 2 * 2 ^ (width.bits - 1) := by
    rw [← pow_succ', Nat.sub_add_cancel some]
  have positive : 0 < 1 <<< width.bits := by
    rw [Nat.one_shiftLeft]
    exact Nat.two_pow_pos _
  have halves : (2 : Int) ^ width.bits / 2 = 2 ^ (width.bits - 1) ∧
      ((2 : Int) ^ width.bits + 1) / 2 = 2 ^ (width.bits - 1) := by omega
  rw [wrap, Int.bmod_eq_iff positive, modulus, halves.1, halves.2]
  constructor
  · rintro ⟨low, high, multiple⟩
    exact ⟨low, high, (Int.modEq_iff_dvd.mpr multiple).symm⟩
  · rintro ⟨low, high, congruent⟩
    exact ⟨low, high, Int.modEq_iff_dvd.mp congruent.symm⟩

theorem IsWrapped.fits {width : IntegerWidth} {value result : Int}
    (wrapped : IsWrapped width value result) :
    -(1 <<< 63) ≤ result ∧ result < 1 <<< 64 := by
  have low := wrapped.low
  have high := wrapped.high
  have powers : (1 <<< 63 : Int) = 2 ^ 63 ∧ (1 <<< 64 : Int) = 2 ^ 64 := by decide
  rw [powers.1, powers.2]
  cases width <;> simp only [IntegerWidth.bits] at low high <;> omega

/-- A value that gives a number becomes the only integer of the width that has
the low bits of the number cut to its integer part. Every other value stays as
it is. -/
theorem coerce_integer_wraps (width : IntegerWidth) (value : Json) :
    (∀ number, value.Denotes number → ∃ result low high,
      (FieldKind.integer width).coerce value =
        .number (.integer result low high) ∧
        IsWrapped width (towardZero number) result ∧
        ∀ other, IsWrapped width (towardZero number) other → other = result) ∧
    ((∀ number, ¬ value.Denotes number) →
      (FieldKind.integer width).coerce value = value) := by
  constructor
  · intro number denotes
    have found := integer?_eq_some_iff.mpr ⟨number, denotes, rfl⟩
    have wrapped := wrap_eq_iff.mp (Eq.refl (wrap width (towardZero number)))
    refine ⟨wrap width (towardZero number), wrapped.fits.1, wrapped.fits.2, ?_,
      wrapped, fun other same => ?_⟩
    · rw [FieldKind.coerce, toInteger, found]
      exact Json.ofInt_of_range wrapped.fits.1 wrapped.fits.2
    · exact (wrap_eq_iff.mpr same).symm
  · intro nothing
    have missing : integer? value = none := by
      rw [Option.eq_none_iff_forall_ne_some]
      intro integer found
      rcases integer?_eq_some_iff.mp found with ⟨number, denotes, -⟩
      exact nothing number denotes
    rw [FieldKind.coerce, toInteger, missing]

def belowMinusThreeHundred : Double := ⟨true, 0x4072C80000000000, by decide⟩

/-- The fraction is cut off toward zero before the bits are. -/
theorem minus_forty_four_of_belowMinusThreeHundred :
    Json.Denotes (.number (.float belowMinusThreeHundred)) (-601 / 2) ∧
      (FieldKind.integer .w8).coerce (.number (.float belowMinusThreeHundred)) =
        .ofInt (-44) := by
  have units : belowMinusThreeHundred.units = 601 * 2 ^ 1073 := by decide +kernel
  have power : (2 : ℚ) ^ 1074 = 2 ^ 1073 * 2 := pow_succ 2 1073
  have number : belowMinusThreeHundred.toRat = -601 / 2 := by
    rw [Double.toRat, units, show BinaryFormat.double.scale = 1074 from rfl,
      power, Nat.cast_mul, Nat.cast_pow, mul_comm, Nat.cast_ofNat,
      mul_div_mul_left _ _ (by positivity)]
    norm_num [belowMinusThreeHundred]
  have denotes : Json.Denotes (.number (.float belowMinusThreeHundred))
      (-601 / 2) := by
    rw [← number]
    exact .float _ (by rw [number]; norm_num) (by rw [number]; norm_num)
  rcases (coerce_integer_wraps .w8 _).1 _ denotes with
    ⟨result, low, high, coerced, -, only⟩
  have part : towardZero (-601 / 2) = -300 := by norm_num [towardZero]
  rw [part] at only
  have wrapped : IsWrapped .w8 (-300) (-44) := ⟨by decide, by decide, by decide⟩
  rw [coerced, ← Json.ofInt_of_range low high, only _ wrapped]
  exact ⟨denotes, rfl⟩

end Coercion

end CriteriaQuery
