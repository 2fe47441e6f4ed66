import CriteriaQuery.Model.Basic
import CriteriaQuery.Model.Coercion

namespace CriteriaQuery

/-! Projection of raw rows. The values at source paths are read first; then
they are put together by their target paths, with or without a model. -/

namespace Json

/-! ## Looking up -/

mutual

def overItems (change : Json → Json) : Json → Json
  | .array items => .array (overItemsOf change items)
  | value => change value

def overItemsOf (change : Json → Json) : List Json → List Json
  | [] => []
  | item :: rest => overItems change item :: overItemsOf change rest

end

/-- The value that segments lead to. Arrays on the way become arrays of what
their items lead to; where there is no way, there is null. -/
def follow : List String → Json → Json
  | [], value => value
  | segment :: rest, value =>
    value.overItems fun item =>
      match item.get? segment with
      | some inner => follow rest inner
      | none => .null

/-- The value at a path of a row. A member with the whole path as its key comes
first. -/
def lookup (row : Json) (path : String) : Json :=
  match row.get? path with
  | some value => value
  | none => follow (Path.segments path) row

/-! ## Projection without a model -/

/-- Puts a value where segments lead, in objects made on the way. What is no
object there gives way to one. -/
def insertAlong (value : Json) : List String → Members → Members
  | [], members => members
  | [key], members => Keyed.set key value members
  | key :: rest, members =>
    let inner := match Keyed.get? key members with
      | some (.object inner) => inner
      | _ => []
    Keyed.set key (.object (insertAlong value rest inner)) members

def project (row : Json) (select : List SelectPath) : Json :=
  .object (select.foldl (fun members pair =>
    insertAlong (row.lookup pair.source) (Path.segments pair.target) members) [])

/-! ## Duplicates -/

def distinctFrom (seen : List String) : List Json → List Json
  | [] => []
  | value :: rest =>
    let text := value.text
    if seen.contains text then distinctFrom seen rest
    else value :: distinctFrom (text :: seen) rest

def distinct (values : List Json) : List Json := distinctFrom [] values

end Json

/-! ## Projection onto a model -/

abbrev TargetValues := List (String × Json)

def TargetValues.ofRow (row : Json) (select : List SelectPath) : TargetValues :=
  (select.map fun pair => (pair.target, row.lookup pair.source)).reverse

def TargetValues.reaches (values : TargetValues) (path : String) : Bool :=
  values.any fun (target, _) =>
    match Text.after? path.toList target.toList with
    | some ('.' :: _) => true
    | _ => false

namespace ModelField

mutual

/-- Assigns a field of an instance. A record gets every field; other instances
keep what they have where no value is given. -/
def assign (values : TargetValues) (record : Bool) (path : String) :
    ModelField → Members → Members
  | .leaf name _ kind, members =>
    match values.lookup (Path.join path name) with
    | some value => Keyed.set name (kind.coerce value) members
    | none => if record then Keyed.set name .null members else members
  | .object name _, members =>
    match values.lookup (Path.join path name) with
    | some value => Keyed.set name value members
    | none => members
  | .submodel name _ construction fields, members =>
    let target := Path.join path name
    if record || values.reaches target then
      Keyed.set name (.object
        (assignAll values construction.isRecord target fields
          construction.blankMembers)) members
    else members
  | .ignored _, members => members

def assignAll (values : TargetValues) (record : Bool) (path : String) :
    List ModelField → Members → Members
  | [], members => members
  | field :: rest, members =>
    assignAll values record path rest (field.assign values record path members)

end

end ModelField

namespace Model

def project (model : Model) (row : Json) (select : List SelectPath) : Json :=
  .object (ModelField.assignAll (.ofRow row select) model.isRecord "" model.fields
    model.construction.blankMembers)

/-! ## Materialization -/

def shapeRow (model : Option Model) (row : Json) (select : List SelectPath) :
    Json :=
  if select.isEmpty then row
  else
    match model with
    | some model => model.project row select
    | none => row.project select

variable {α : Type}

def materialize (read : Json → Option α) (model : Model) (row : Json)
    (select : List SelectPath) : Except ModelError α :=
  match read (model.project row select) with
  | some value => .ok value
  | none => .error .unfit

def materializeRow? (read : Json → Option α) (model : Option Model) (row : Json)
    (select : List SelectPath) : Option α :=
  read (shapeRow model row select)

/-- Reads rows in order. Rows that do not fit are left out, and so are repeated
shapes if `distinct` is set. -/
def materializeAll (read : Json → Option α) (model : Option Model)
    (rows : List Json) (select : List SelectPath) (distinct : Bool) : List α :=
  let shapes := rows.map fun row => shapeRow model row select
  (if distinct then Json.distinct shapes else shapes).filterMap read

end Model

end CriteriaQuery
