import CriteriaQuery.Model.Projection
import CriteriaQuery.Model.Shape
import CriteriaQuery.Proofs.Json.Identity
import CriteriaQuery.Proofs.Store.Distinct
import Mathlib.Data.List.Induction

namespace CriteriaQuery

/-! A batch of rows is read as its rows are read one by one, in order. With
`distinct` a row is left out exactly when a row before it has the same shape. Rows
that do not fit take part in this, but only other rows that do not fit have their
shapes. -/

namespace Json

/-! ## Repetitions at the end of a list -/

theorem distinctFrom_append_singleton (seen : List String) (values : List Json)
    (value : Json) :
    distinctFrom seen (values ++ [value]) = distinctFrom seen values ++
      if value.text ∈ seen ∨ value ∈ values then [] else [value] := by
  induction values generalizing seen with
  | nil => simp [distinctFrom]
  | cons first rest induction =>
    simp only [List.cons_append, distinctFrom, List.contains_iff_mem]
    split
    next repeated =>
      rw [induction]
      by_cases same : value = first
      · simp [same, repeated]
      · simp [same]
    next new =>
      rw [induction, List.cons_append]
      simp only [List.mem_cons, text_injective.eq_iff, or_assoc, or_left_comm]

theorem distinct_append_singleton (values : List Json) (value : Json) :
    distinct (values ++ [value]) =
      distinct values ++ if value ∈ values then [] else [value] := by
  simp [distinct, distinctFrom_append_singleton]

/-! ## Values that are not read -/

section

variable {α : Type} {read : Json → Option α}

/-- Values that cannot be read leave no trace in what is read of the others: it
depends only on the seen texts of values that can be read. -/
theorem filterMap_distinctFrom_filter {seen other : List String}
    {values : List Json}
    (agree : ∀ value,
      (read value).isSome = true → (value.text ∈ seen ↔ value.text ∈ other)) :
    (distinctFrom seen values).filterMap read =
      (distinctFrom other
        (values.filter fun value => (read value).isSome)).filterMap read := by
  induction values generalizing seen other with
  | nil => rfl
  | cons first rest induction =>
    rw [distinctFrom, List.contains_eq_mem]
    cases fits : read first with
    | none =>
      rw [List.filter_cons_of_neg (by simp [fits])]
      split
      · exact induction agree
      · rw [List.filterMap_cons_none fits]
        apply induction
        intro value valueFits
        have different : value ≠ first := by
          rintro rfl
          simp [fits] at valueFits
        simp [text_injective.ne different, agree value valueFits]
    | some found =>
      have same := agree first (by simp [fits])
      rw [List.filter_cons_of_pos (by simp [fits]), distinctFrom,
        List.contains_eq_mem]
      simp only [same]
      split
      · exact induction agree
      · rw [List.filterMap_cons_some fits, List.filterMap_cons_some fits]
        apply congrArg
        apply induction
        intro value valueFits
        rw [List.mem_cons, List.mem_cons, agree value valueFits]

end

end Json

namespace Model

def firstOfShape (shape : Json → Json) (rows : List Json) : List Json :=
  (rows.zipIdx.filter fun (row, place) =>
    (rows.take place).all fun earlier =>
      !(shape earlier).identical (shape row)).map Prod.fst

theorem firstOfShape_append_singleton (shape : Json → Json) (rows : List Json)
    (row : Json) :
    firstOfShape shape (rows ++ [row]) =
      firstOfShape shape rows ++
        if shape row ∈ rows.map shape then [] else [row] := by
  have front : (rows.zipIdx.filter fun (other, place) =>
    ((rows ++ [row]).take place).all
      fun earlier => !(shape earlier).identical (shape other)) =
      rows.zipIdx.filter fun (other, place) => (rows.take place).all
        fun earlier => !(shape earlier).identical (shape other) := by
    apply List.filter_congr
    intro (other, place) member
    have before : place < 0 + rows.length := List.snd_lt_add_of_mem_zipIdx member
    simp only [List.take_append_of_le_length (show place ≤ rows.length by omega)]
  have last : (rows.all fun earlier => !(shape earlier).identical (shape row)) =
      !decide (shape row ∈ rows.map shape) := by
    rw [Bool.eq_iff_iff]
    simp [← Bool.not_eq_true, Json.identical_iff]
  rw [firstOfShape, List.zipIdx_append, List.filter_append,
    List.map_append, front]
  congr 1
  by_cases repeated : shape row ∈ rows.map shape
  · simp [last, repeated]
  · simp [last, repeated]

theorem distinct_map (shape : Json → Json) (rows : List Json) :
    Json.distinct (rows.map shape) = (firstOfShape shape rows).map shape := by
  induction rows using List.reverseRecOn with
  | nil => rfl
  | append_singleton rows row induction =>
    rw [List.map_append, List.map_singleton, Json.distinct_append_singleton,
      induction, firstOfShape_append_singleton, List.map_append]
    split <;> rfl

section

variable {α : Type} {read : Json → Option α} {model : Option Model}
  {rows : List Json} {select : List SelectPath}

theorem filterMap_shapeRow (rows : List Json) :
    (rows.map (shapeRow model · select)).filterMap read =
      rows.filterMap (materializeRow? read model · select) := by
  rw [List.filterMap_map]
  rfl

theorem materializeAll_of_not_distinct (rows : List Json) :
    materializeAll read model rows select false =
      rows.filterMap (materializeRow? read model · select) :=
  filterMap_shapeRow rows

theorem materializeAll_of_distinct (rows : List Json) :
    materializeAll read model rows select true =
      (firstOfShape (shapeRow model · select) rows).filterMap
        (materializeRow? read model · select) := by
  rw [materializeAll, if_pos rfl, distinct_map]
  exact filterMap_shapeRow _

theorem materializeAll_filter_fitting (rows : List Json) (distinct : Bool) :
    materializeAll read model
      (rows.filter fun row => (materializeRow? read model row select).isSome)
        select distinct =
      materializeAll read model rows select distinct := by
  cases distinct with
  | false =>
    rw [materializeAll_of_not_distinct, materializeAll_of_not_distinct,
      List.filterMap_filter]
    apply List.filterMap_congr
    intro row _
    cases materializeRow? read model row select <;> rfl
  | true =>
    have shapes : (Json.distinct (rows.map (shapeRow model · select))).filterMap
        read = (Json.distinct ((rows.map (shapeRow model · select)).filter
          fun shape => (read shape).isSome)).filterMap read :=
      Json.filterMap_distinctFrom_filter fun _ _ => Iff.rfl
    rw [List.filter_map] at shapes
    exact shapes.symm

theorem mem_materializeAll {row : Json} (member : row ∈ rows) {value : α}
    (fits : materializeRow? read model row select = some value)
    (distinct : Bool) :
    value ∈ materializeAll read model rows select distinct := by
  have shaped : shapeRow model row select ∈ rows.map (shapeRow model · select) :=
    List.mem_map_of_mem member
  apply List.mem_filterMap.mpr
  refine ⟨shapeRow model row select, ?_, fits⟩
  cases distinct with
  | false => exact shaped
  | true => exact Json.mem_distinct.mpr shaped

theorem materializeAll_of_different_shapes
    (different : rows.Pairwise fun earlier later =>
      (shapeRow model earlier select).identical
        (shapeRow model later select) = false) :
    materializeAll read model rows select true =
      materializeAll read model rows select false := by
  have nodup : (rows.map (shapeRow model · select)).Nodup := by
    apply List.Pairwise.map _ _ different
    intro earlier later apart same
    rw [← Json.identical_iff, apart] at same
    cases same
  simp only [materializeAll, if_true]
  rw [Json.distinct_of_nodup nodup]
  rfl

end

/-- A batch gives what its rows give when each is read alone, in order, and with
`distinct` what the rows give whose shape is not that of a row before them. So a
row that does not fit never affects another one, no value that a row gives is
lost, and rows are merged only when their shapes are the same. -/
theorem materializeAll_reads_rows_alone {α : Type} (read : Json → Option α)
    (model : Option Model) (rows : List Json) (select : List SelectPath) :
    materializeAll read model rows select false =
        rows.filterMap (materializeRow? read model · select) ∧
      materializeAll read model rows select true =
        (firstOfShape (shapeRow model · select) rows).filterMap
          (materializeRow? read model · select) ∧
      (∀ distinct, materializeAll read model
        (rows.filter fun row => (materializeRow? read model row select).isSome)
          select distinct = materializeAll read model rows select distinct) ∧
      (∀ row ∈ rows, ∀ value, materializeRow? read model row select = some value →
        ∀ distinct, value ∈ materializeAll read model rows select distinct) ∧
      ((rows.Pairwise fun earlier later =>
          (shapeRow model earlier select).identical
            (shapeRow model later select) = false) →
        materializeAll read model rows select true =
          materializeAll read model rows select false) := by
  refine ⟨materializeAll_of_not_distinct rows, materializeAll_of_distinct rows,
    materializeAll_filter_fitting rows, ?_, materializeAll_of_different_shapes⟩
  intro row member value fits distinct
  exact mem_materializeAll member fits distinct

def namedRow (name : Json) (age : Nat) : Json :=
  .object [("age", .ofNat age), ("name", name)]

def namedRows : List Json :=
  [namedRow (.ofNat 5) 30, namedRow (.string "Ann") 20, namedRow (.ofNat 5) 40,
    namedRow (.string "Ann") 50, namedRow (.string "Bob") 20]

def readName : Json → Option Json := (Shape.record [("name", none, .text)]).read?

def onlyName : List SelectPath := [.same "name"]

theorem names_of_namedRows :
    materializeAll readName none namedRows onlyName true =
        [.object [("name", .string "Ann")], .object [("name", .string "Bob")]] ∧
      (∀ distinct, .object [("name", .string "Bob")] ∈
        materializeAll readName none namedRows onlyName distinct) ∧
      materializeAll readName none (namedRows.drop 2) onlyName true =
        materializeAll readName none (namedRows.drop 2) onlyName false := by
  rcases materializeAll_reads_rows_alone readName none namedRows onlyName with
    ⟨-, once, -, kept, -⟩
  rcases materializeAll_reads_rows_alone readName none
      (namedRows.drop 2) onlyName with
    ⟨-, -, -, -, merged⟩
  refine ⟨?_, ?_, merged (by decide +kernel)⟩
  · rw [once]
    decide +kernel
  · apply kept (namedRow (.string "Bob") 20)
    · decide +kernel
    · decide +kernel

end Model

end CriteriaQuery
