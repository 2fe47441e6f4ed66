import CriteriaQuery.Json.Basic

namespace CriteriaQuery

/-! The declared fields of a result or update model. -/

inductive IntegerWidth where
  | w8
  | w16
  | w32
  | w64
  deriving DecidableEq, Repr

def IntegerWidth.bits : IntegerWidth → Nat
  | .w8 => 8
  | .w16 => 16
  | .w32 => 32
  | .w64 => 64

inductive FloatWidth where
  | f32
  | f64
  deriving DecidableEq, Repr

inductive FieldKind where
  | any
  | bool
  | text
  | integer (width : IntegerWidth)
  | float (width : FloatWidth)
  | timestamp
  | instant
  /-- A name out of a list, or its place in the list. -/
  | enum (names : List String)
  deriving DecidableEq, Repr

inductive Construction where
  | record
  /-- From a blank instance, by assigning the fields that are given. -/
  | assigned (blank : Json)
  deriving Repr

def Construction.isRecord : Construction → Bool
  | .record => true
  | .assigned _ => false

def Construction.blankMembers : Construction → Members
  | .assigned (.object members) => members
  | _ => []

inductive ModelError where
  | ignoredFieldOnRecord (model field : String)
  | nestedTypeOnRecord (model field : String)
  | duplicateField (model field : String)
  | unknownModel (name : String)
  | unfit
  deriving DecidableEq, Repr

def ModelError.message : ModelError → String
  | .ignoredFieldOnRecord model field =>
    "Record model " ++ model ++ " can not have ignored field " ++ field
  | .nestedTypeOnRecord model field =>
    "Record model " ++ model ++
      " does not support nested model type on field " ++ field
  | .duplicateField model field =>
    "Model " ++ model ++ " declares field " ++ field ++ " more than once"
  | .unknownModel name => "Model " ++ name ++ " is not registered"
  | .unfit => "Serialization error"

def ModelError.kind : ModelError → String
  | .ignoredFieldOnRecord _ _ => "IgnoredFieldOnRecord"
  | .nestedTypeOnRecord _ _ => "NestedTypeOnRecord"
  | .duplicateField _ _ => "DuplicateField"
  | .unknownModel _ => "UnknownModel"
  | .unfit => "Serialization"

end CriteriaQuery
