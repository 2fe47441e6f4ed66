import CriteriaQuery.Json.Decoding
import CriteriaQuery.Path.Basic
import CriteriaQuery.Text.Basic
import CriteriaQuery.Text.Numeral

namespace CriteriaQuery

/-! Settings shared by all backends. Every part has a default. -/

/-- How the table of a relation is joined: the foreign column of the related
row equals the local column of the row it belongs to. -/
structure Relation where
  table : String
  localColumn : String
  foreignColumn : String
  deriving DecidableEq, Repr

def Relation.byConvention (segment : String) : Relation :=
  ⟨segment, segment ++ "_id", "id"⟩

structure Paging where
  defaultSize : UInt32
  defaultNumber : UInt32
  maxSize : Option UInt32
  deriving DecidableEq, Repr

structure PathRules where
  /-- First segments that name an embedded object and no relation. -/
  embedded : List String
  /-- Stands for a dot where the relation may be absent. -/
  leftJoinMarker : Char
  deriving DecidableEq, Repr

def PathRules.isEmbedded (rules : PathRules) (segment : String) : Bool :=
  rules.embedded.contains segment

structure Relational where
  rootAlias : String
  relations : List (String × Relation)
  deriving DecidableEq, Repr

def Relational.relation (relational : Relational) (path : String) : Relation :=
  (relational.relations.lookup path).getD (.byConvention (Path.leaf path))

structure Config where
  paging : Paging
  paths : PathRules
  idField : String
  relational : Relational
  deriving DecidableEq, Repr

namespace Config

def default : Config :=
  ⟨⟨20, 0, none⟩, ⟨[], '<'⟩, "id", ⟨"t0", []⟩⟩

/-! ## Validation -/

inductive Fault where
  | zeroPageSize
  | maxBelowDefault (max size : UInt32)
  | blankIdField
  | markerIsSeparator
  deriving DecidableEq, Repr

def Fault.message : Fault → String
  | .zeroPageSize => "query.default_page_size must be greater than 0"
  | .maxBelowDefault max size =>
    "query.max_page_size (" ++ Text.numeral max.toNat ++
      ") is smaller than query.default_page_size (" ++
      Text.numeral size.toNat ++ ")"
  | .blankIdField => "update.id_field must not be blank"
  | .markerIsSeparator =>
    "paths.left_join_marker must differ from the path separator"

def maxBelowDefault? (paging : Paging) : Option Fault :=
  match paging.maxSize with
  | some max =>
    if max < paging.defaultSize then
      some (.maxBelowDefault max paging.defaultSize)
    else none
  | none => none

def fault? (config : Config) : Option Fault :=
  if config.paging.defaultSize = 0 then some .zeroPageSize
  else
    match maxBelowDefault? config.paging with
    | some fault => some fault
    | none =>
      if Text.isBlankText config.idField then some .blankIdField
      else if config.paths.leftJoinMarker = '.' then some .markerIsSeparator
      else none

example : default.fault? = none := by decide +kernel

end Config

end CriteriaQuery
