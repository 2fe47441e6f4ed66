import CriteriaQuery.Model.Field
import CriteriaQuery.Path.Basic
import CriteriaQuery.Query.Basic

namespace CriteriaQuery

/-! Models: the fields of a result or update shape with the paths of their
values in the stored data. -/

inductive ModelField where
  | leaf (name source : String) (kind : FieldKind)
  /-- A model inside a model. Its paths lie under `scope`, if that is not
  empty. -/
  | submodel (name scope : String) (construction : Construction)
      (fields : List ModelField)
  | object (name source : String)
  | ignored (name : String)
  deriving Repr

def ModelField.name : ModelField → String
  | .leaf name _ _ => name
  | .submodel name _ _ _ => name
  | .object name _ => name
  | .ignored name => name

structure Model where
  name : String
  construction : Construction
  fields : List ModelField
  deriving Repr

/-! ## Declarations -/

/-- What a declared field is. A source that is not given is the name of the
field, and so is a scope. -/
inductive FieldRole where
  | leaf (source : Option String) (kind : FieldKind)
  | submodel (scope : Option String) (model : Except ModelError Model)
  | object (source : Option String)
  | ignored

structure FieldDeclaration where
  name : String
  role : FieldRole

namespace FieldDeclaration

def leaf (name : String) : FieldDeclaration := ⟨name, .leaf none .any⟩

def submodel (name : String) (model : Except ModelError Model) :
    FieldDeclaration :=
  ⟨name, .submodel none model⟩

def object (name : String) : FieldDeclaration := ⟨name, .object none⟩

def ignored (name : String) : FieldDeclaration := ⟨name, .ignored⟩

def withSource (declaration : FieldDeclaration) (path : String) :
    FieldDeclaration :=
  match declaration.role with
  | .leaf _ kind => { declaration with role := .leaf (some path) kind }
  | .object _ => { declaration with role := .object (some path) }
  | _ => declaration

def withKind (declaration : FieldDeclaration) (kind : FieldKind) :
    FieldDeclaration :=
  match declaration.role with
  | .leaf source _ => { declaration with role := .leaf source kind }
  | _ => declaration

def withScope (declaration : FieldDeclaration) (scope : String) :
    FieldDeclaration :=
  match declaration.role with
  | .submodel _ model => { declaration with role := .submodel (some scope) model }
  | _ => declaration

/-- The field of a declaration. A record is built from every field at once, so
it has no use for ignored fields and values that are no submodel. -/
def field (declaration : FieldDeclaration) (model : String)
    (construction : Construction) : Except ModelError ModelField :=
  let name := declaration.name
  match declaration.role with
  | .leaf source kind => .ok (.leaf name (source.getD name) kind)
  | .submodel scope inner =>
    inner.map fun inner =>
      .submodel name (scope.getD name) inner.construction inner.fields
  | .object source =>
    if construction.isRecord then .error (.nestedTypeOnRecord model name)
    else .ok (.object name (source.getD name))
  | .ignored =>
    if construction.isRecord then .error (.ignoredFieldOnRecord model name)
    else .ok (.ignored name)

end FieldDeclaration

namespace Model

/-- The fields of declarations, in order. No name may stand twice; `seen` holds
the names so far. -/
def buildFields (model : String) (construction : Construction)
    (seen : List String) :
    List FieldDeclaration → Except ModelError (List ModelField)
  | [] => .ok []
  | declaration :: rest =>
    if seen.contains declaration.name then
      .error (.duplicateField model declaration.name)
    else do
      let field ← declaration.field model construction
      let fields ← buildFields model construction (declaration.name :: seen) rest
      return field :: fields

def build (name : String) (construction : Construction)
    (declarations : List FieldDeclaration) : Except ModelError Model :=
  (buildFields name construction [] declarations).map fun fields =>
    ⟨name, construction, fields⟩

def isRecord (model : Model) : Bool := model.construction.isRecord

end Model

/-! ## Leaves -/

structure Leaf where
  source : String
  target : String
  kind : FieldKind
  deriving DecidableEq, Repr

namespace ModelField

mutual

def leaves (source target : String) : ModelField → List Leaf
  | .leaf name path kind => [⟨Path.join source path, Path.join target name, kind⟩]
  | .object name path => [⟨Path.join source path, Path.join target name, .any⟩]
  | .submodel name scope _ fields =>
    leavesOf (Path.join source scope) (Path.join target name) fields
  | .ignored _ => []

def leavesOf (source target : String) : List ModelField → List Leaf
  | [] => []
  | field :: rest => field.leaves source target ++ leavesOf source target rest

end

end ModelField

def Model.leaves (model : Model) : List Leaf :=
  ModelField.leavesOf "" "" model.fields

namespace Model

def select (model : Model) : List SelectPath :=
  model.leaves.map fun leaf => ⟨leaf.source, leaf.target⟩

def missingTargets (model : Model) (select : List SelectPath) : List String :=
  (model.leaves.map Leaf.target).filter fun target =>
    !(select.map SelectPath.target).contains target

end Model

/-! ## Registered models

Models known by name, for updates whose model is only known when they
arrive. -/

structure ModelRegistry where
  models : Keyed Model

namespace ModelRegistry

def empty : ModelRegistry := ⟨[]⟩

def register (registry : ModelRegistry) (model : Model) : ModelRegistry :=
  ⟨Keyed.set model.name model registry.models⟩

def get (registry : ModelRegistry) (name : String) : Except ModelError Model :=
  match Keyed.get? name registry.models with
  | some model => .ok model
  | none => .error (.unknownModel name)

def contains (registry : ModelRegistry) (name : String) : Bool :=
  (Keyed.get? name registry.models).isSome

def names (registry : ModelRegistry) : List String := Keyed.keys registry.models

def size (registry : ModelRegistry) : Nat := registry.models.length

end ModelRegistry

end CriteriaQuery
