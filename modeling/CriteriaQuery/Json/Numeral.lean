import CriteriaQuery.Double.Reading
import CriteriaQuery.Json.Basic

namespace CriteriaQuery.Json.Numeral

/-! Numbers in JSON text. One with a fraction or an exponent is a float, and so
are minus zero and an integer past 64 bits. A float is read in steps, each of
them rounded: the leading digits that fit 64 bits, and then a power of ten. -/

def isWellFormed (magnitude : List Char) : Bool :=
  let whole := magnitude.takeWhile Char.isDigit
  !whole.isEmpty && (whole.head? ≠ some '0' || whole.length = 1) &&
    match magnitude.dropWhile Char.isDigit with
    | '.' :: fraction => fraction.head?.any Char.isDigit
    | _ => true

def push? (value : Nat) (c : Char) : Option Nat :=
  let next := value * 10 + (c.toNat - '0'.toNat)
  if next ≤ Text.limit64 then some next else none

/-- Reads digits in front of the point onto a value. The number beside it counts
those that do not fit. -/
def readWhole (value : Nat) : List Char → Nat × Nat
  | [] => (value, 0)
  | c :: rest =>
    match push? value c with
    | some next => readWhole next rest
    | none => (value, rest.length + 1)

def readFraction (value : Nat) : List Char → Nat × Nat
  | [] => (value, 0)
  | c :: rest =>
    match push? value c with
    | some next =>
      let (value, places) := readFraction next rest
      (value, places + 1)
    | none => (value, 0)

example :
    readWhole 0 "18446744073709551616".toList = (1844674407370955161, 1) := by
  decide +kernel
example : readFraction 1 "50".toList = (150, 2) := by decide +kernel

def maxExponent : Nat := 308

def powerOfTen? (exponent : Nat) : Option Double :=
  Double.ofDecimal? false 1 exponent

/-- A value times a power of ten. Below the reach of one division there are two,
and below that of two every value is zero. -/
def scaled? (negative : Bool) (significand : Nat) (exponent : Int) :
    Option Double := do
  let value ← Double.ofQuotient? negative significand 1
  let distance := exponent.natAbs
  if 0 ≤ exponent then
    if distance ≤ maxExponent then value.times? (← powerOfTen? distance)
    else if significand = 0 then return value
    else none
  else if distance ≤ maxExponent then value.over? (← powerOfTen? distance)
  else if distance ≤ 2 * maxExponent then
    let nearer ← value.over? (← powerOfTen? maxExponent)
    nearer.over? (← powerOfTen? (distance - maxExponent))
  else Double.ofRank? negative 0

def number? (word : List Char) : Option Number := do
  let negative := word.head? = some '-'
  let magnitude := if negative then word.tail else word
  if !isWellFormed magnitude then none
  else
    let (whole, fraction, exponentPart) := Double.splitDecimal magnitude
    let exponent ← Double.readExponent? exponentPart
    let (value, surplus) := readWhole 0 whole
    let isInteger := magnitude.all Char.isDigit && surplus = 0
    if isInteger && !(negative && (value = 0 || 1 <<< 63 < value)) then
      Number.ofInt? (if negative then -value else value)
    else
      let (value, places) := readFraction value fraction
      let result ← scaled? negative value (exponent + surplus - places)
      return .float result

example : number? "-1".toList matches some (.integer (-1) _ _) := by
  decide +kernel
example :
    (number? "18446744073709551616".toList).map Number.key =
      some 0x43F0000000000000 := by
  decide +kernel
example : (number? "5e-324".toList).map Number.key = some 1 := by decide +kernel
example :
    ["01", "1.", "-", "1e", "1e400"].all fun text =>
      (number? text.toList).isNone := by
  decide +kernel

end CriteriaQuery.Json.Numeral
