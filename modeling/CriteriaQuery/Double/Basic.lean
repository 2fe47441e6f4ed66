namespace CriteriaQuery

/-! Finite binary floating point numbers as exact data. The non-negative
values of a format are counted from zero upwards; the rank of a value is its
place in that count. Ranks are ordered as the values are, and the gap between
two neighbouring ranks is one unit in the last place. -/

structure BinaryFormat where
  fractionBits : Nat
  /-- The least positive value is two to the power of minus this number. -/
  scale : Nat
  /-- How many finite values are not negative. -/
  count : Nat

namespace BinaryFormat

def double : BinaryFormat := ⟨52, 1074, 0x7FF0000000000000⟩

def single : BinaryFormat := ⟨23, 149, 0x7F800000⟩

def shift (format : BinaryFormat) (rank : Nat) : Nat :=
  (rank >>> format.fractionBits) - 1

def significand (format : BinaryFormat) (rank : Nat) : Nat :=
  rank - (format.shift rank <<< format.fractionBits)

/-- The value of a rank, counted in least positive values. -/
def units (format : BinaryFormat) (rank : Nat) : Nat :=
  format.significand rank <<< format.shift rank

end BinaryFormat

/-- A finite number of 64 bits: a sign and the rank of its magnitude. Zero has
two forms. -/
structure Double where
  negative : Bool
  rank : Nat
  finite : rank < BinaryFormat.double.count
  deriving DecidableEq, Repr

namespace Double

def zero : Double := ⟨false, 0, by decide⟩

def units (value : Double) : Nat := BinaryFormat.double.units value.rank

/-- Signed rank, the key by which values are ordered. Both zeros have key
zero. -/
def key (value : Double) : Int :=
  if value.negative then -(value.rank : Int) else value.rank

def truncate (value : Double) : Int :=
  let magnitude := value.units >>> BinaryFormat.double.scale
  if value.negative then -(magnitude : Int) else magnitude

end Double

/-! ## Rounding

Rounding to the nearest value of a binary format, ties to the even
significand. -/

def roundHalfEven (numerator denominator : Nat) : Nat :=
  let quotient := numerator / denominator
  let twice := 2 * (numerator % denominator)
  if twice < denominator then quotient
  else if denominator < twice then quotient + 1
  else if quotient % 2 = 0 then quotient else quotient + 1

example :
    roundHalfEven 5 2 = 2 ∧ roundHalfEven 7 2 = 4 ∧ roundHalfEven 8 3 = 3 := by
  decide

def bitLength (value : Nat) : Nat := if value = 0 then 0 else Nat.log2 value + 1

namespace BinaryFormat

/-- Rank nearest to a quotient that counts least positive values. A rank of
`format.count` or more is an overflow. Carrying out of the significand moves on
to the next power of two by itself, since ranks are consecutive. -/
def nearest (format : BinaryFormat) (numerator denominator : Nat) : Nat :=
  let shift := bitLength (numerator / denominator) - (format.fractionBits + 1)
  (shift <<< format.fractionBits) +
    roundHalfEven numerator (denominator <<< shift)

end BinaryFormat

namespace Double

def ofRank? (negative : Bool) (rank : Nat) : Option Double :=
  if finite : rank < BinaryFormat.double.count then
    some ⟨negative, rank, finite⟩
  else none

def ofQuotient? (negative : Bool) (numerator denominator : Nat) : Option Double :=
  ofRank? negative
    (BinaryFormat.double.nearest (numerator <<< BinaryFormat.double.scale)
      denominator)

def ofInt? (value : Int) : Option Double := ofQuotient? (value < 0) value.natAbs 1

def times? (left right : Double) : Option Double :=
  let one := 1 <<< BinaryFormat.double.scale
  ofQuotient? (left.negative != right.negative)
    (left.units * right.units) (one * one)

/-- The quotient, rounded. The divisor is not zero. -/
def over? (left right : Double) : Option Double :=
  ofQuotient? (left.negative != right.negative) left.units right.units

def toSingle? (value : Double) : Option Double :=
  let single := BinaryFormat.single
  let rank :=
    single.nearest value.units (1 <<< (BinaryFormat.double.scale - single.scale))
  if rank < single.count then
    ofQuotient? value.negative (single.units rank) (1 <<< single.scale)
  else none

end Double

end CriteriaQuery
