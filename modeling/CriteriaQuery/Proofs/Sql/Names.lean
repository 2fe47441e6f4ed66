import CriteriaQuery.Proofs.Double.Text
import CriteriaQuery.Proofs.Sql.Grammar
import CriteriaQuery.Proofs.Sql.Joins

namespace CriteriaQuery

/-! The characters of the names in a statement. Every part of a name is looked at
somewhere, so no character but those of paths gets in, unless the configuration
brings it in. -/

namespace Sql

def isPathCharacter (c : Char) : Bool := c.isAlphanum || c = '_' || c = '.'

theorem isPathCharacter_of_isIdentifier {name : String}
    (named : isIdentifier name = true) {c : Char} (member : c ∈ name.toList) :
    isPathCharacter c = true := by
  have word := (characterKind_of_mem named).2 c member
  unfold characterKind at word
  split at word
  next letter => simpa [isPathCharacter] using Or.inl letter
  next =>
    split at word
    · cases word
    · split at word <;> cases word

end Sql

open Sql

namespace Relational

/-- Characters of paths, and those that are brought in by the alias of the root
table or by the path of a relation. -/
def Allows (relational : Relational) (c : Char) : Prop :=
  isPathCharacter c = true ∨ c ∈ relational.rootAlias.toList ∨
    ∃ key ∈ relational.relations.map Prod.fst, c ∈ key.toList

def Admits (relational : Relational) (text : String) : Prop :=
  ∀ c ∈ text.toList, relational.Allows c

variable {relational : Relational}

/-- What no character of paths has and the configuration does not bring in, no
name has. -/
theorem not_allows_of_not_mem {c : Char} (foreign : isPathCharacter c = false)
    (rootAlias : c ∉ relational.rootAlias.toList)
    (keys : ∀ key ∈ relational.relations.map Prod.fst, c ∉ key.toList) :
    ¬ relational.Allows c := by
  rintro (isPath | ofAlias | ⟨key, isKey, ofKey⟩)
  · rw [foreign] at isPath
    cases isPath
  · exact rootAlias ofAlias
  · exact keys key isKey ofKey

theorem isPathCharacter_of_allows
    (rootAlias : ∀ c ∈ relational.rootAlias.toList, isPathCharacter c = true)
    (keys : ∀ key ∈ relational.relations.map Prod.fst, ∀ c ∈ key.toList,
      isPathCharacter c = true)
    {c : Char} (allowed : relational.Allows c) : isPathCharacter c = true := by
  rcases allowed with isPath | ofAlias | ⟨key, isKey, ofKey⟩
  · exact isPath
  · exact rootAlias c ofAlias
  · exact keys key isKey c ofKey

theorem admits_append {left right : String} :
    relational.Admits (left ++ right) ↔
    relational.Admits left ∧ relational.Admits right := by
  simp only [Admits, String.toList_append, List.mem_append]
  exact ⟨fun each => ⟨fun c member => each c (.inl member),
      fun c member => each c (.inr member)⟩,
    fun ⟨first, second⟩ c member => member.elim (first c) (second c)⟩

theorem admits_of_isPathCharacter {text : String}
    (each : ∀ c ∈ text.toList, isPathCharacter c = true) :
    relational.Admits text :=
  fun c member => .inl (each c member)

theorem admits_of_isIdentifier {name : String}
    (named : isIdentifier name = true) : relational.Admits name :=
  admits_of_isPathCharacter fun _ => isPathCharacter_of_isIdentifier named

theorem admits_rootAlias (relational : Relational) :
    relational.Admits relational.rootAlias :=
  fun _ member => .inr (.inl member)

theorem admits_key {key : String}
    (isKey : key ∈ relational.relations.map Prod.fst) : relational.Admits key :=
  fun _ member => .inr (.inr ⟨key, isKey, member⟩)

theorem admits_numeral (number : Nat) :
    relational.Admits (Text.numeral number) := by
  refine admits_of_isPathCharacter fun c member => ?_
  rw [Text.numeral, String.toList_ofList] at member
  simp [isPathCharacter, Char.isAlphanum, Double.isDigit_of_mem_decimal member]

theorem admits_tableAlias (number : Nat) :
    relational.Admits (tableAlias number) :=
  admits_append.mpr ⟨admits_of_isIdentifier (by decide), admits_numeral number⟩

theorem admits_joinAlias (number : Nat) : relational.Admits (joinAlias number) :=
  admits_append.mpr ⟨admits_of_isIdentifier (by decide), admits_numeral number⟩

/-! ## Names of fields

A selected field is written out as the name of its column. Its segments are looked
at one by one: the last one as the name of a column, the others as names of
relations. -/

theorem admits_of_admits_replace {text : String}
    (admitted : relational.Admits (Text.replace '.' '_' text)) :
    relational.Admits text := by
  intro c member
  by_cases dot : c = '.'
  · exact .inl (by rw [dot]; decide)
  · refine admitted c ?_
    rw [Text.replace, String.toList_ofList]
    exact List.mem_map.mpr ⟨c, member, if_neg dot⟩

theorem admits_leaf {path : String} (admitted : relational.Admits path) :
    relational.Admits (Path.leaf path) := by
  intro c member
  rw [Path.leaf, String.toList_ofList, List.mem_reverse] at member
  exact admitted c (List.mem_reverse.mp ((List.takeWhile_sublist _).mem member))

/-- A relation that was configured has an admitted path, and any other one is
named after its leaf. -/
theorem admits_leaf_of_relationNames {path : String}
    (identifiers : ∀ name ∈ relationNames relational path,
      isIdentifier name = true) :
    relational.Admits (Path.leaf path) := by
  have table : isIdentifier (relational.relation path).table = true :=
    identifiers _ List.mem_cons_self
  unfold relation at table
  cases found : relational.relations.lookup path with
  | some relation =>
    obtain ⟨before, after, entries, -⟩ := List.lookup_eq_some_iff.mp found
    refine admits_leaf (admits_key ?_)
    rw [entries, List.map_append]
    exact List.mem_append_right _ List.mem_cons_self
  | none =>
    rw [found] at table
    exact admits_of_isIdentifier table

end Relational

namespace Sql

variable {relational : Relational} {schema : Schema} {fields : List String}
  {start : Nat} {joins : List Join}

theorem admits_leaf_of_columnName {field above : String}
    (nested : columnPath? schema field = some above)
    (named : isIdentifier (columnName field above) = true) :
    relational.Admits (Path.leaf field) := by
  have admitted := Relational.admits_of_admits_replace
    (relational.admits_of_isIdentifier named)
  split at admitted
  next => exact Relational.admits_leaf admitted
  next =>
    rwa [(parted_of_columnPath?_eq_some nested).1,
      Path.relativeTo_append_dot] at admitted

theorem IsColumnOf.admits_field {field : String} {column : Column}
    (isColumn : IsColumnOf relational schema joins field column)
    (joined : AreJoined relational schema fields start joins) :
    relational.Admits field := by
  have named := isColumn.isIdentifier_name
  rw [isColumn.name] at named
  cases nested : columnPath? schema field with
  | none =>
    rw [nested] at named
    exact Relational.admits_of_admits_replace
      (relational.admits_of_isIdentifier named)
  | some above =>
    rw [nested] at named
    obtain ⟨parted, crossed⟩ := parted_of_columnPath?_eq_some nested
    have leaves : (schema.boundaries field).map Path.leaf =
        Path.segments above := by
      rw [crossed,
        Path.map_leaf_boundariesFrom _ fun segment =>
        Path.isSegment_of_mem_segments]
    have isAbove : relational.Admits above := by
      intro c member
      by_cases dot : c = '.'
      · exact .inl (by rw [dot]; decide)
      · obtain ⟨segment, isSegment, inside⟩ := Path.exists_segment member dot
        rw [← leaves] at isSegment
        obtain ⟨boundary, isBoundary, rfl⟩ := List.mem_map.mp isSegment
        obtain ⟨join, isJoin, rfl⟩ := isColumn.joined boundary isBoundary
        obtain ⟨path, outer, number, rfl, identifiers, -⟩ :=
          joined.exists_joinAt isJoin
        exact Relational.admits_leaf_of_relationNames identifiers c inside
    rw [parted, Relational.admits_append, Relational.admits_append]
    exact ⟨⟨isAbove,
        Relational.admits_of_isPathCharacter (List.all_eq_true.mp (by decide))⟩,
      admits_leaf_of_columnName nested named⟩

theorem IsColumnOf.admits_table {field : String} {column : Column}
    (isColumn : IsColumnOf relational schema joins field column)
    (joined : AreJoined relational schema fields start joins) :
    relational.Admits column.table := by
  have isTable := isColumn.table
  cases last : (schema.boundaries field).getLast? with
  | none =>
    rw [last] at isTable
    exact isTable ▸ relational.admits_rootAlias
  | some path =>
    rw [last] at isTable
    obtain ⟨join, isJoin, -, isAlias⟩ := isTable
    obtain ⟨_, _, number, rfl, -⟩ := joined.exists_joinAt isJoin
    exact isAlias ▸ Relational.admits_joinAlias number

end Sql

end CriteriaQuery
