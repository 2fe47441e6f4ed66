import CriteriaQuery.Double.Basic
import CriteriaQuery.Text.Numeral

namespace CriteriaQuery

/-! Decimal text of a floating point number: an optional sign, digits with an
optional point and at least one digit beside it, and an optional exponent.
The value is rounded once, from the exact decimal. -/

namespace Double

/-- A decimal `digits · 10 ^ exponent`, rounded to the nearest value. Exponents
far outside the range of the format are settled by the number of digits. -/
def ofDecimal? (negative : Bool) (digits : Nat) (exponent : Int) :
    Option Double :=
  let order := exponent + (Text.decimal digits).length
  if digits = 0 ∨ order < -400 then ofRank? negative 0
  else if 400 < order then none
  else if exponent < 0 then
    ofQuotient? negative digits (Nat.pow 10 exponent.natAbs)
  else ofQuotient? negative (digits * Nat.pow 10 exponent.natAbs) 1

def digitsValue (digits : List Char) : Nat :=
  digits.foldl (fun value c => value * 10 + (c.toNat - '0'.toNat)) 0

def readExponent? : List Char → Option Int
  | [] => some 0
  | mark :: rest =>
    if mark = 'e' ∨ mark = 'E' then
      match rest with
      | '+' :: digits => magnitude? digits
      | '-' :: digits => (magnitude? digits).map fun value => -value
      | digits => magnitude? digits
    else none
where
  magnitude? (digits : List Char) : Option Int :=
    if digits.isEmpty || !digits.all Char.isDigit then none
    else some (digitsValue digits)

def splitDecimal (characters : List Char) : List Char × List Char × List Char :=
  let whole := characters.takeWhile Char.isDigit
  match characters.dropWhile Char.isDigit with
  | '.' :: rest =>
    (whole, rest.takeWhile Char.isDigit, rest.dropWhile Char.isDigit)
  | rest => (whole, [], rest)

def readUnsigned? (negative : Bool) (characters : List Char) : Option Double :=
  let (whole, fraction, exponentPart) := splitDecimal characters
  if whole.isEmpty && fraction.isEmpty then none
  else
    match readExponent? exponentPart with
    | none => none
    | some exponent =>
      ofDecimal? negative (digitsValue (whole ++ fraction))
        (exponent - fraction.length)

def ofText? (text : String) : Option Double :=
  match text.toList with
  | '+' :: rest => readUnsigned? false rest
  | '-' :: rest => readUnsigned? true rest
  | characters => readUnsigned? false characters

example :
    (ofText? "1e400").isNone ∧ (ofText? ".").isNone ∧ (ofText? "1e").isNone := by
  decide +kernel
example : (ofText? ".5").map Double.rank = some 0x3FE0000000000000 := by
  decide +kernel
example : (ofText? "-1.").map Double.key = some (-0x3FF0000000000000) := by
  decide +kernel

end Double

end CriteriaQuery
