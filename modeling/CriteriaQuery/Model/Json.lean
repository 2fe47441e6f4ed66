import CriteriaQuery.Model.Basic
import CriteriaQuery.Query.Json

namespace CriteriaQuery

/-! The JSON form of models: kinds by name, declarations, and an outline of what
a model declares and reads. -/

namespace FieldKind

def named : List (String × FieldKind) :=
  [("any", .any), ("bool", .bool), ("text", .text), ("i8", .integer .w8),
    ("i16", .integer .w16), ("i32", .integer .w32), ("i64", .integer .w64),
    ("f32", .float .f32), ("f64", .float .f64), ("timestamp", .timestamp),
    ("instant", .instant)]

def toJson : FieldKind → Json
  | .enum names => .object [("enum", .array (names.map .string))]
  | kind => ((named.find? fun (_, other) => other = kind).map fun (name, _) =>
      Json.string name).getD .null

def ofJson (value : Json) : Except DecodeError FieldKind :=
  match value with
  | .string name => (named.lookup name).elim (.error .shape) .ok
  | _ => Decode.record ["enum"] value fun
    | [names] => (Decode.required (Decode.list Decode.text) names).map .enum
    | _ => .error .shape

example : (ofJson (.string "i16")).map toJson = .ok (.string "i16") := by rfl

end FieldKind

/-! ## Declarations -/

abbrev KnownModels := String → Except ModelError Model

namespace FieldDeclaration

def ofRole (known : KnownModels) (name : String) (model : Option String) :
    Json → Except DecodeError FieldDeclaration
  | .string "leaf" => .ok (.leaf name)
  | .string "object" => .ok (.object name)
  | .string "ignored" => .ok (.ignored name)
  | .string "sub" =>
    model.elim (.error .shape) fun model => .ok (.submodel name (known model))
  | _ => .error .shape

/-- Reads a declaration. What is given beside the role is set in the order
source, kind, scope. -/
def ofJson (known : KnownModels) (value : Json) :
    Except DecodeError FieldDeclaration :=
  Decode.record ["name", "role", "model", "source", "kind", "prefix"] value fun
    | [name, role, model, source, kind, scope] => do
      let name ← Decode.required Decode.text name
      let model ← Decode.orDefault none (Decode.optional Decode.text) model
      let declaration ← Decode.required (ofRole known name model) role
      let source ← Decode.orDefault none (Decode.optional Decode.text) source
      let kind ← Decode.orDefault none (Decode.optional FieldKind.ofJson) kind
      let scope ← Decode.orDefault none (Decode.optional Decode.text) scope
      let sourced := source.elim declaration declaration.withSource
      let typed := kind.elim sourced sourced.withKind
      return scope.elim typed typed.withScope
    | _ => .error .shape

end FieldDeclaration

namespace Model

def constructionOf (blank : Option Json) : Json → Except DecodeError Construction
  | .string "record" => .ok .record
  | .string "class" => .ok (.assigned (blank.getD (.object [])))
  | _ => .error .shape

def ofJson (known : KnownModels) (value : Json) :
    Except DecodeError (String × Except ModelError Model) :=
  Decode.record ["name", "constructor", "blank", "fields"] value fun
    | [name, construction, blank, fields] => do
      let name ← Decode.required Decode.text name
      let construction ← Decode.required (constructionOf blank) construction
      let fields ←
        Decode.required (Decode.list (FieldDeclaration.ofJson known)) fields
      return (name, build name construction fields)
    | _ => .error .shape

/-- Reads models in order; a declaration can name an earlier one. The last one is
the result. -/
def ofDefinitions (known : KnownModels) :
    List Json → Except DecodeError (Except ModelError Model)
  | [] => .error .shape
  | [last] => (ofJson known last).map Prod.snd
  | first :: rest => do
    let (name, model) ← ofJson known first
    ofDefinitions (fun other => if other = name then model else known other) rest

end Model

/-! ## Outlines -/

def Leaf.toJson (leaf : Leaf) : Json :=
  .object [("kind", leaf.kind.toJson), ("source", .string leaf.source),
    ("target", .string leaf.target)]

def Model.outline (model : Model) (select : List SelectPath) : Json :=
  .object [("fields", .array (model.fields.map fun field => .string field.name)),
    ("leaves", .array (model.leaves.map Leaf.toJson)),
    ("missing", .array ((model.missingTargets select).map .string)),
    ("name", .string model.name), ("record", .bool model.isRecord),
    ("select", .array (model.select.map SelectPath.toJson))]

end CriteriaQuery
