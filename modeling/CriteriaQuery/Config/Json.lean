import CriteriaQuery.Config.Basic

namespace CriteriaQuery

/-! The JSON form of configurations. -/

namespace Relation

def ofJson (value : Json) : Except DecodeError Relation :=
  Decode.record ["table", "local_column", "foreign_column"] value fun
    | [table, localColumn, foreignColumn] => do
      let table ← Decode.required Decode.text table
      let localColumn ← Decode.required Decode.text localColumn
      let foreignColumn ← Decode.required Decode.text foreignColumn
      return ⟨table, localColumn, foreignColumn⟩
    | _ => .error .shape

def toJson (relation : Relation) : Json :=
  .object [("foreign_column", .string relation.foreignColumn),
    ("local_column", .string relation.localColumn),
    ("table", .string relation.table)]

end Relation

namespace Config

def decodePaging (value : Json) : Except DecodeError Paging :=
  Decode.record
    ["default_page_size", "default_page_number", "max_page_size"] value fun
    | [size, number, max] => do
      let size ← Decode.orDefault default.paging.defaultSize Decode.natural32 size
      let number ←
        Decode.orDefault default.paging.defaultNumber Decode.natural32 number
      let max ← Decode.orDefault default.paging.maxSize
        (Decode.optional Decode.natural32) max
      return ⟨size, number, max⟩
    | _ => .error .shape

def decodePaths (value : Json) : Except DecodeError PathRules :=
  Decode.record ["embedded", "left_join_marker"] value fun
    | [embedded, marker] => do
      let embedded ←
        Decode.orDefault default.paths.embedded (Decode.list Decode.text) embedded
      let marker ←
        Decode.orDefault default.paths.leftJoinMarker Decode.character marker
      return ⟨embedded, marker⟩
    | _ => .error .shape

def decodeUpdate (value : Json) : Except DecodeError String :=
  Decode.record ["id_field"] value fun
    | [idField] => Decode.orDefault default.idField Decode.text idField
    | _ => .error .shape

def decodeRelational (value : Json) : Except DecodeError Relational :=
  Decode.record ["root_alias", "relations"] value fun
    | [rootAlias, relations] => do
      let rootAlias ←
        Decode.orDefault default.relational.rootAlias Decode.text rootAlias
      let relations ← Decode.orDefault default.relational.relations
        (Decode.map Relation.ofJson) relations
      return ⟨rootAlias, relations⟩
    | _ => .error .shape

def ofJson (value : Json) : Except DecodeError Config :=
  Decode.record ["query", "paths", "update", "relational"] value fun
    | [paging, paths, update, relational] => do
      let paging ← Decode.orDefault default.paging decodePaging paging
      let paths ← Decode.orDefault default.paths decodePaths paths
      let idField ← Decode.orDefault default.idField decodeUpdate update
      let relational ←
        Decode.orDefault default.relational decodeRelational relational
      return ⟨paging, paths, idField, relational⟩
    | _ => .error .shape

def toJson (config : Config) : Json :=
  .ofMembers [
    ("query", .ofMembers [
      ("default_page_size", .ofNat config.paging.defaultSize.toNat),
      ("default_page_number", .ofNat config.paging.defaultNumber.toNat),
      ("max_page_size",
        (config.paging.maxSize.map fun max => .ofNat max.toNat).getD .null)]),
    ("paths", .ofMembers [
      ("embedded", .array (config.paths.embedded.map .string)),
      ("left_join_marker",
        .string (String.singleton config.paths.leftJoinMarker))]),
    ("update", .ofMembers [("id_field", .string config.idField)]),
    ("relational", .ofMembers [
      ("root_alias", .string config.relational.rootAlias),
      ("relations",
        .ofMembers (config.relational.relations.map fun (path, relation) =>
          (path, relation.toJson)))])]

end Config

end CriteriaQuery
