import CriteriaQuery.Double.Reading

namespace CriteriaQuery

/-! The shortest decimal text of a floating point number. Every value has a
finite decimal expansion; it is cut to ever more digits until the nearest
decimal of that length reads back as the value. -/

namespace Double

def expansionScale : Nat := BinaryFormat.double.scale

/-- All decimal digits of a magnitude: its value times ten to the power of
`expansionScale`. -/
def expansion (rank : Nat) : Nat :=
  BinaryFormat.double.units rank * Nat.pow 5 expansionScale

def readsAs (rank candidate : Nat) : Bool :=
  BinaryFormat.double.nearest candidate (Nat.pow 5 expansionScale) == rank

/-- The better of the two decimals beside the value on the grid with spacing
`grid`, if one of them reads back: the nearer one, and of two equally near the
even one. -/
def onGrid? (rank grid : Nat) : Option Nat :=
  let exact := expansion rank
  let low := exact / grid
  let best := roundHalfEven exact grid
  if readsAs rank (best * grid) then some best
  else if readsAs rank (low * grid) then some low
  else if readsAs rank ((low + 1) * grid) then some (low + 1)
  else none

/-- Digits and exponent of the shortest decimal that reads back: the first
grid, from the coarsest to the finest, that has one. -/
def shortest (rank : Nat) : Nat × Int :=
  let places := (Text.decimal (expansion rank)).length
  let attempt := (List.range 17).findSome? fun kept =>
    let dropped := places - (kept + 1)
    (onGrid? rank (Nat.pow 10 dropped)).map fun digits =>
      (digits, (dropped : Int) - expansionScale)
  attempt.getD (expansion rank, -(expansionScale : Int))

structure PlainRange where
  leastPlain : Int
  greatestPlain : Int

def plainRange : PlainRange := ⟨-5, 15⟩

def plain (digits : List Char) (exponent : Int) : List Char :=
  if exponent < 0 then
    '0' :: '.' :: (List.replicate (exponent.natAbs - 1) '0' ++ digits)
  else
    let whole := exponent.toNat + 1
    if digits.length ≤ whole then
      digits ++ List.replicate (whole - digits.length) '0' ++ ['.', '0']
    else digits.take whole ++ '.' :: digits.drop whole

def scientific (digits : List Char) (exponent : Int) : List Char :=
  let mantissa := match digits with
    | first :: second :: rest => first :: '.' :: second :: rest
    | _ => digits
  mantissa ++ 'e' :: (if exponent < 0 then '-' else '+') ::
    Text.decimal exponent.natAbs

def significantDigits (digits : List Char) : List Char :=
  (digits.reverse.dropWhile (· = '0')).reverse

def magnitudeText (rank : Nat) : List Char :=
  if rank = 0 then ['0', '.', '0']
  else
    let (value, scale) := shortest rank
    let all := Text.decimal value
    let exponent := scale + all.length - 1
    let digits := significantDigits all
    if plainRange.leastPlain ≤ exponent ∧ exponent ≤ plainRange.greatestPlain then
      plain digits exponent
    else scientific digits exponent

def text (value : Double) : List Char :=
  if value.negative then '-' :: magnitudeText value.rank
  else magnitudeText value.rank

private def rewritten (source : String) : Option String :=
  (ofText? source).map fun value => String.ofList value.text

example : rewritten "1e5" = some "100000.0" := by decide +kernel
example : rewritten "0.00001" = some "0.00001" := by decide +kernel
example : rewritten "0.0000010" = some "1e-6" := by decide +kernel
example : rewritten "12345678901234567890" = some "1.2345678901234567e+19" := by
  decide +kernel
example : rewritten "-0.3" = some "-0.3" ∧ rewritten "-0" = some "-0.0" := by
  decide +kernel
example : rewritten "5e-324" = some "5e-324" := by decide +kernel

end Double

end CriteriaQuery
