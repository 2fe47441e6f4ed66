import CriteriaQuery.Double.Reading
import CriteriaQuery.Json.Text
import CriteriaQuery.Model.Field
import CriteriaQuery.Text.Basic
import CriteriaQuery.Time.Instant

namespace CriteriaQuery

/-! Coercion of values toward a declared kind. A value that has no counterpart
of the kind is left unchanged. -/

namespace Coercion

def toBool (value : Json) : Json :=
  match value with
  | .string text =>
    if Text.equalIgnoringCase text "true" then .bool true
    else if Text.equalIgnoringCase text "false" then .bool false
    else value
  | _ => value

def toText (value : Json) : Json :=
  match value with
  | .number number => .string (String.ofList number.text)
  | .bool flag => .string (Json.bool flag).text
  | _ => value

/-- The integer of 64 bits that a value gives. A float is cut to its integer
part, and a text is read without the blank characters around it. -/
def integer? : Json → Option Int
  | .number (.float value) =>
    let integer := value.truncate
    if -(1 <<< 63) ≤ integer ∧ integer < 1 <<< 63 then some integer else none
  | .number number => number.toInteger64?
  | .string text => Text.readInteger64? (Text.trim text)
  | _ => none

/-- An integer without the bits past a width, read with its sign. -/
def wrap (width : IntegerWidth) (value : Int) : Int :=
  value.bmod (1 <<< width.bits)

example :
    wrap .w8 300 = 44 ∧ wrap .w8 128 = -128 ∧ wrap .w16 (-32769) = 32767 := by
  decide

def toInteger (width : IntegerWidth) (value : Json) : Json :=
  match integer? value with
  | some integer => .ofInt (wrap width integer)
  | none => value

def double? : Json → Option Double
  | .number number => number.toDouble?
  | .string text => Double.ofText? (Text.trim text)
  | _ => none

def toFloat (width : FloatWidth) (value : Json) : Json :=
  let rounded := match width with
    | .f32 => (double? value).bind Double.toSingle?
    | .f64 => double? value
  match rounded with
  | some double => .number (.float double)
  | none => value

def toTimestamp (value : Json) : Json :=
  match value with
  | .number _ => toInteger .w64 value
  | .string text =>
    match Instant.ofText? (Text.trim text) with
    | some millis => .ofInt millis
    | none => value
  | _ => value

def toInstant (value : Json) : Json :=
  match value with
  | .number _ =>
    match (integer? value).bind Instant.text? with
    | some text => .string text
    | none => value
  | _ => value

def toName (names : List String) (value : Json) : Json :=
  let name? := match value with
    | .number number => number.toNatural?.bind (names[·]?)
    | .string text => names.find? (Text.equalIgnoringCase · (Text.trim text))
    | _ => none
  match name? with
  | some name => .string name
  | none => value

end Coercion

def FieldKind.coerce (kind : FieldKind) (value : Json) : Json :=
  match kind with
  | .any => value
  | .bool => Coercion.toBool value
  | .text => Coercion.toText value
  | .integer width => Coercion.toInteger width value
  | .float width => Coercion.toFloat width value
  | .timestamp => Coercion.toTimestamp value
  | .instant => Coercion.toInstant value
  | .enum names => Coercion.toName names value

end CriteriaQuery
