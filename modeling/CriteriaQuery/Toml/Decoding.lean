import CriteriaQuery.Toml.Basic

namespace CriteriaQuery.Toml

/-! Reading typed records out of TOML values. A record is a table that gives the
fields by name, or an array that gives them by position. Surplus positions are
not looked at; values of other names are dropped, but their numbers must be
readable. -/

def positions (count : Nat) (items : List Value) : List (Option Value) :=
  (items.take count).map some ++ List.replicate (count - items.length) none

/-- The fields with these names, in their declared order. A field that is not
given has no value. A date is a record that gives none of them. -/
def fields? (names : List String) : Value → Option (List (Option Value))
  | .table _ entries =>
    if entries.all fun (name, value) =>
        names.contains name || value.isReadable then
      some (names.map fun name => Keyed.get? name entries)
    else none
  | .array items => some (positions names.length items)
  | .tables last earlier =>
    some (positions names.length ((last :: earlier).reverse.map (.table .header)))
  | .dateTime _ => some (names.map fun _ => none)
  | _ => none

def required? {α : Type} (read : Value → Option α) (field : Option Value) :
    Option α :=
  field.bind read

def orDefault? {α : Type} (fallback : α) (read : Value → Option α) :
    Option Value → Option α
  | some value => read value
  | none => some fallback

namespace Value

def text? : Value → Option String
  | .string value => some value
  | _ => none

def character? : Value → Option Char
  | .string value =>
    match value.toList with
    | [c] => some c
    | _ => none
  | _ => none

def natural32? : Value → Option UInt32
  | .integer value =>
    if 0 ≤ value ∧ value < 1 <<< 32 then some (UInt32.ofNat value.toNat) else none
  | _ => none

def list? {α : Type} (read : Value → Option α) : Value → Option (List α)
  | .array items => items.mapM read
  | _ => none

def map? {α : Type} (read : Value → Option α) : Value → Option (List (String × α))
  | .table _ entries =>
    entries.mapM fun (key, value) => (read value).map fun value => (key, value)
  | _ => none

end Value

end CriteriaQuery.Toml
