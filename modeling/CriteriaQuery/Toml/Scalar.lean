import CriteriaQuery.Pieces
import CriteriaQuery.Time.Instant
import CriteriaQuery.Toml.Basic

namespace CriteriaQuery.Toml

/-! Values written without quotes: flags, numbers, dates and times. -/

/-! ## Numbers -/

def digits? (isDigit : Char → Bool) (characters : List Char) :
    Option (List Char) :=
  let groups := pieces (· == '_') characters
  if groups.all fun group => !group.isEmpty && group.all isDigit then
    some groups.flatten
  else none

def wholeDigits? (characters : List Char) : Option (List Char) :=
  (digits? Char.isDigit characters).bind fun digits =>
    if digits.head? = some '0' ∧ digits ≠ ['0'] then none else some digits

def magnitude? (base : Nat) (characters : List Char) : Option Nat :=
  let value (c : Char) : Nat := (Text.hexValue? c).getD base
  (digits? (fun c => value c < base) characters).map fun digits =>
    digits.foldl (fun soFar c => soFar * base + value c) 0

def exponent? : List Char → Option Int
  | '+' :: digits => (magnitude? 10 digits).map Int.ofNat
  | '-' :: digits => (magnitude? 10 digits).map fun value => -(value : Int)
  | digits => (magnitude? 10 digits).map Int.ofNat

def decimal? (negative : Bool) (characters : List Char) : Option Value := do
  let (significand, exponent) ←
    match pieces (fun c => c == 'e' || c == 'E') characters with
    | [significand] => some (significand, none)
    | [significand, exponent] =>
      (exponent? exponent).map fun value => (significand, some value)
    | _ => none
  match pieces (· == '.') significand, exponent with
  | [whole], none =>
    let digits ← wholeDigits? whole
    let value : Int := Double.digitsValue digits
    return .integer (if negative then -value else value)
  | [whole], some exponent =>
    let digits ← wholeDigits? whole
    return .decimal negative (Double.digitsValue digits) exponent
  | [whole, fraction], exponent =>
    let digits ← wholeDigits? whole
    let places ← digits? Char.isDigit fraction
    return .decimal negative (Double.digitsValue (digits ++ places))
      (exponent.getD 0 - places.length)
  | _, _ => none

def signed? (negative : Bool) (characters : List Char) : Option Value :=
  if characters = "inf".toList then some (.infinity negative)
  else if characters = "nan".toList then some .notANumber
  else decimal? negative characters

def based? (base : Nat) : List Char → Option Value
  | [] => some (.digitless base)
  | digits => (magnitude? base digits).map fun value => .integer value

def number? : List Char → Option Value
  | '+' :: rest => signed? false rest
  | '-' :: rest => signed? true rest
  | '0' :: 'x' :: digits => based? 16 digits
  | '0' :: 'o' :: digits => based? 8 digits
  | '0' :: 'b' :: digits => based? 2 digits
  | characters => signed? false characters

/-! ## Dates and times -/

/-- What follows a time of day. Seconds may be left out; a fraction goes with
seconds only. -/
def afterClock? (characters : List Char) : Option (List Char) := do
  let (hour, rest) ← Instant.digits? 2 0 characters
  let rest ← Instant.oneOf? [':'] rest
  let (minute, rest) ← Instant.digits? 2 0 rest
  if 23 < hour ∨ 59 < minute then none
  else
    match rest with
    | ':' :: rest =>
      let (second, rest) ← Instant.digits? 2 0 rest
      let (_, rest) ← Instant.fraction? rest
      if 60 < second then none else some rest
    | rest => some rest

def isOffset (characters : List Char) : Bool :=
  characters.isEmpty || characters.head? ≠ some '\u2212' &&
    (Instant.offset? characters).any fun (_, rest) => rest.isEmpty

def isDateTime (characters : List Char) : Bool :=
  match Instant.date? characters with
  | none => (afterClock? characters).any List.isEmpty
  | some (_, rest) =>
    rest.isEmpty ||
      ((Instant.oneOf? ['T', 't', ' '] rest).bind afterClock?).any isOffset

def scalar? (characters : List Char) : Option Value :=
  if characters = "true".toList then some (.bool true)
  else if characters = "false".toList then some (.bool false)
  else if isDateTime characters then some (.dateTime (String.ofList characters))
  else number? characters

example : scalar? "-1_000".toList matches some (.integer (-1000)) := by
  decide +kernel
example : scalar? "0xfF".toList matches some (.integer 255) := by decide +kernel
example : scalar? "0x".toList matches some (.digitless 16) := by decide +kernel
example :
    scalar? "1_0.5e-1_0".toList matches some (.decimal false 105 (-11)) := by
  decide +kernel
example : ["007", "1__0", "-0x1", "0x_", "1.", ".5", "1.e2", "1e"].all fun text =>
    (scalar? text.toList).isNone := by decide +kernel
example :
    ["1979-05-27", "07:32", "1979-05-27 07:32:00.5-07:00",
      "2000-02-29t23:59Z"].all fun text => isDateTime text.toList := by
  decide +kernel
example :
    ["1979-5-27", "24:00", "07:32:00.", "2001-02-29", "07:32Z"].all fun text =>
      !isDateTime text.toList := by
  decide +kernel

end CriteriaQuery.Toml
