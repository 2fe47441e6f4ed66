import CriteriaQuery.Model.Basic
import CriteriaQuery.Model.Shape

namespace CriteriaQuery

/-! Models of typed values: what is read from a row, together with the shape in
which a value of the type is decoded and written. -/

structure TypedModel where
  name : String
  model : Except ModelError Model
  shape : Shape

/-- A field of a typed model: its declaration, what stands for it when a value
does not have it, and its shape. -/
abbrev TypedField := FieldDeclaration × Option Json × Shape

namespace TypedField

def required (declaration : FieldDeclaration) (shape : Shape) : TypedField :=
  (declaration, none, shape)

def nullable (declaration : FieldDeclaration) (shape : Shape) : TypedField :=
  (declaration, none, .optional shape)

def orBlank (declaration : FieldDeclaration) (shape : Shape) : TypedField :=
  (declaration, some shape.blank, shape)

end TypedField

namespace TypedModel

def shapeOf (fields : List TypedField) : Shape :=
  .record (fields.map fun (declaration, rest) => (declaration.name, rest))

def record (name : String) (fields : List TypedField) : TypedModel :=
  ⟨name, Model.build name .record (fields.map Prod.fst), shapeOf fields⟩

def assigned (name : String) (fields : List TypedField) : TypedModel :=
  let shape := shapeOf fields
  ⟨name, Model.build name (.assigned shape.blank) (fields.map Prod.fst), shape⟩

def field (inner : TypedModel) (name : String) : FieldDeclaration :=
  .submodel name inner.model

end TypedModel

end CriteriaQuery
