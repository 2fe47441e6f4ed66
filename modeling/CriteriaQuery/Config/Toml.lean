import CriteriaQuery.Config.Basic
import CriteriaQuery.Toml.Decoding
import CriteriaQuery.Toml.Document

namespace CriteriaQuery

/-! Configurations written in TOML. -/

def Relation.ofToml? (value : Toml.Value) : Option Relation := do
  match ← Toml.fields? ["table", "local_column", "foreign_column"] value with
  | [table, localColumn, foreignColumn] =>
    let table ← Toml.required? Toml.Value.text? table
    let localColumn ← Toml.required? Toml.Value.text? localColumn
    let foreignColumn ← Toml.required? Toml.Value.text? foreignColumn
    return ⟨table, localColumn, foreignColumn⟩
  | _ => none

inductive ConfigError where
  | unreadable
  | malformed
  | invalid (fault : Config.Fault)
  deriving DecidableEq, Repr

def Config.Fault.report (fault : Config.Fault) : String :=
  "Config validation failed: " ++ fault.message

namespace Config

def pagingOfToml? (value : Toml.Value) : Option Paging := do
  let names := ["default_page_size", "default_page_number", "max_page_size"]
  match ← Toml.fields? names value with
  | [size, number, max] =>
    let size ←
      Toml.orDefault? default.paging.defaultSize Toml.Value.natural32? size
    let number ←
      Toml.orDefault? default.paging.defaultNumber Toml.Value.natural32? number
    let max ← Toml.orDefault? default.paging.maxSize
      (Toml.Value.natural32? · |>.map some) max
    return ⟨size, number, max⟩
  | _ => none

def pathsOfToml? (value : Toml.Value) : Option PathRules := do
  match ← Toml.fields? ["embedded", "left_join_marker"] value with
  | [embedded, marker] =>
    let embedded ← Toml.orDefault? default.paths.embedded
      (Toml.Value.list? Toml.Value.text?) embedded
    let marker ←
      Toml.orDefault? default.paths.leftJoinMarker Toml.Value.character? marker
    return ⟨embedded, marker⟩
  | _ => none

def updateOfToml? (value : Toml.Value) : Option String := do
  match ← Toml.fields? ["id_field"] value with
  | [idField] => Toml.orDefault? default.idField Toml.Value.text? idField
  | _ => none

def relationalOfToml? (value : Toml.Value) : Option Relational := do
  match ← Toml.fields? ["root_alias", "relations"] value with
  | [rootAlias, relations] =>
    let rootAlias ←
      Toml.orDefault? default.relational.rootAlias Toml.Value.text? rootAlias
    let relations ← Toml.orDefault? default.relational.relations
      (Toml.Value.map? Relation.ofToml?) relations
    return ⟨rootAlias, relations⟩
  | _ => none

def ofTomlValue? (value : Toml.Value) : Option Config := do
  match ← Toml.fields? ["query", "paths", "update", "relational"] value with
  | [paging, paths, update, relational] =>
    let paging ← Toml.orDefault? default.paging pagingOfToml? paging
    let paths ← Toml.orDefault? default.paths pathsOfToml? paths
    let idField ← Toml.orDefault? default.idField updateOfToml? update
    let relational ←
      Toml.orDefault? default.relational relationalOfToml? relational
    return ⟨paging, paths, idField, relational⟩
  | _ => none

def validate (config : Config) : Except ConfigError Config :=
  match config.fault? with
  | some fault => .error (.invalid fault)
  | none => .ok config

def ofToml (text : String) : Except ConfigError Config :=
  match (Toml.ofText? text).bind fun entries =>
      ofTomlValue? (.table .header entries) with
  | none => .error .malformed
  | some config => validate config

end Config

end CriteriaQuery
