import CriteriaQuery.Json.Basic

namespace CriteriaQuery

/-! Reading typed records out of JSON. A record is an object that gives the
fields by name, or an array that gives them by position. Members with other
names are ignored; surplus positions are refused. -/

inductive DecodeError where
  | shape
  | unsupportedOperator (name : String)
  deriving DecidableEq, Repr

namespace Decode

/-- The fields with these names, in their declared order. A field that is not
given has no value. -/
def record {α : Type} (names : List String) (value : Json)
    (read : List (Option Json) → Except DecodeError α) : Except DecodeError α :=
  match value with
  | .object members => read (names.map fun name => Keyed.get? name members)
  | .array items => do
    let result ← read (items.take names.length |>.map some |>.append
      (List.replicate (names.length - items.length) none))
    if names.length < items.length then .error .shape else .ok result
  | _ => .error .shape

def required {α : Type} (read : Json → Except DecodeError α) :
    Option Json → Except DecodeError α
  | some value => read value
  | none => .error .shape

def orDefault {α : Type} (fallback : α) (read : Json → Except DecodeError α) :
    Option Json → Except DecodeError α
  | some value => read value
  | none => .ok fallback

def optional {α : Type} (read : Json → Except DecodeError α) :
    Json → Except DecodeError (Option α)
  | .null => .ok none
  | value => (read value).map some

def any (value : Json) : Except DecodeError Json := .ok value

def text : Json → Except DecodeError String
  | .string value => .ok value
  | _ => .error .shape

def bool : Json → Except DecodeError Bool
  | .bool value => .ok value
  | _ => .error .shape

def character : Json → Except DecodeError Char
  | .string value =>
    match value.toList with
    | [c] => .ok c
    | _ => .error .shape
  | _ => .error .shape

def natural32 : Json → Except DecodeError UInt32
  | .number (.integer value _ _) =>
    if 0 ≤ value ∧ value < 1 <<< 32 then .ok (UInt32.ofNat value.toNat)
    else .error .shape
  | _ => .error .shape

def items {α : Type} (read : Json → Except DecodeError α) :
    List Json → Except DecodeError (List α)
  | [] => .ok []
  | item :: rest => do
    let value ← read item
    let values ← items read rest
    return value :: values

def list {α : Type} (read : Json → Except DecodeError α) :
    Json → Except DecodeError (List α)
  | .array values => items read values
  | _ => .error .shape

def entries {α : Type} (read : Json → Except DecodeError α) :
    Members → Except DecodeError (List (String × α))
  | [] => .ok []
  | (name, member) :: rest => do
    let value ← read member
    let values ← entries read rest
    return (name, value) :: values

def map {α : Type} (read : Json → Except DecodeError α) :
    Json → Except DecodeError (List (String × α))
  | .object members => entries read members
  | _ => .error .shape

end Decode

end CriteriaQuery
