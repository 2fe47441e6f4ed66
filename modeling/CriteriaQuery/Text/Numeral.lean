namespace CriteriaQuery.Text

/-! Whole numbers written in decimal ASCII digits, with an optional sign. -/

inductive NumeralError where
  | empty
  | invalidDigit
  | tooLarge
  deriving DecidableEq, Repr

def NumeralError.message : NumeralError → String
  | .empty => "cannot parse integer from empty string"
  | .invalidDigit => "invalid digit found in string"
  | .tooLarge => "number too large to fit in target type"

def digitValue? (c : Char) : Option Nat :=
  if c.isDigit then some (c.toNat - '0'.toNat) else none

/-- Reads digits onto the value `soFar`. The first character that is no digit
or takes the value above `limit` decides the error. -/
def readDigits (limit : Nat) (soFar : Nat) : List Char → Except NumeralError Nat
  | [] => .ok soFar
  | c :: rest =>
    match digitValue? c with
    | none => .error .invalidDigit
    | some digit =>
      if limit < soFar * 10 + digit then .error .tooLarge
      else readDigits limit (soFar * 10 + digit) rest

def readMagnitude (limit : Nat) : List Char → Except NumeralError Nat
  | [] => .error .invalidDigit
  | characters => readDigits limit 0 characters

/-- Reads a natural number of at most `limit`. A plus sign may stand in front;
a minus sign is an invalid digit. -/
def readNatural (limit : Nat) (text : String) : Except NumeralError Nat :=
  match text.toList with
  | [] => .error .empty
  | '+' :: rest => readMagnitude limit rest
  | characters => readMagnitude limit characters

def readInteger (limit : Nat) (text : String) : Except NumeralError Int :=
  match text.toList with
  | [] => .error .empty
  | '+' :: rest => (readMagnitude limit rest).map Int.ofNat
  | '-' :: rest =>
    (readMagnitude (limit + 1) rest).map fun magnitude => -(magnitude : Int)
  | characters => (readMagnitude limit characters).map Int.ofNat

def limit32 : Nat := (1 <<< 32) - 1

def limit64 : Nat := (1 <<< 64) - 1

def readInteger64? (text : String) : Option Int :=
  (readInteger ((1 <<< 63) - 1) text).toOption

example :
    readInteger64? "-9223372036854775808" = some (-9223372036854775808) := by
  decide
example : readInteger64? "9223372036854775808" = none := by decide
example : readNatural limit32 "4294967296x" = .error .tooLarge := rfl
example : readNatural limit32 "-1" = .error .invalidDigit := rfl

/-! ## Digits -/

def decimal (value : Nat) : List Char := Nat.toDigits 10 value

def numeral (value : Nat) : String := String.ofList (decimal value)

def hexValue? (c : Char) : Option Nat :=
  if c.isDigit then some (c.toNat - '0'.toNat)
  else if 'a' ≤ c ∧ c ≤ 'f' then some (c.toNat - 'a'.toNat + 10)
  else if 'A' ≤ c ∧ c ≤ 'F' then some (c.toNat - 'A'.toNat + 10)
  else none

end CriteriaQuery.Text
