import CriteriaQuery.Proofs.Model.Projection
import CriteriaQuery.Proofs.Store.Paging
import CriteriaQuery.Repository
import Mathlib.Data.List.Basic

namespace CriteriaQuery

/-! A repository over a memory store projects every row twice: the store keeps
the source paths of the query, and what it keeps is projected again. The second
projection reads what the first one put there, as long as no source path lies
under another one. -/

def SeparateSources (select : List SelectPath) : Prop :=
  ∀ above ∈ select, ∀ pair ∈ select, ¬ Path.Extends pair.source above.source

instance (select : List SelectPath) : Decidable (SeparateSources select) :=
  inferInstanceAs (Decidable (∀ above ∈ select, ∀ pair ∈ select, _))

example : ¬ SeparateSources [⟨"roles", "roles"⟩, ⟨"roles.name", "names"⟩] := by
  decide

/-! ## The second projection -/

section Agreement

variable {row document : Json} {select : List SelectPath}

theorem Json.project_congr
    (agree : ∀ pair ∈ select,
      row.lookup pair.source = document.lookup pair.source) :
    row.project select = document.project select := by
  unfold Json.project
  congr 1
  apply List.foldl_ext
  intro members pair member
  rw [agree pair member]

theorem Model.project_congr (model : Model)
    (agree : ∀ pair ∈ select,
      row.lookup pair.source = document.lookup pair.source) :
    model.project row select = model.project document select := by
  have values : TargetValues.ofRow row select =
      TargetValues.ofRow document select := by
    unfold TargetValues.ofRow
    congr 1
    apply List.map_congr_left
    intro pair member
    rw [agree pair member]
  rw [Model.project, values, Model.project]

end Agreement

/-! ## The rows of the store -/

def MemoryStore.pageOf (store : MemoryStore) (query : DocumentQuery) :
    List Json :=
  (((store.collection query.collection).matching query).drop query.skip).take
    query.limit

theorem MemoryStore.execute_rows_of_not_distinct (store : MemoryStore)
    {query : DocumentQuery} (plain : query.distinct = false) :
    (store.execute query).rows = (store.pageOf query).map query.keep := by
  have rows : (store.collection query.collection).rows query =
      ((store.collection query.collection).matching query).map query.keep :=
    Collection.rows_of_not_distinct plain
  simp only [execute, Collection.find, rows, pageOf, List.map_take, List.map_drop]

def DocumentQuery.selecting (query : DocumentQuery) (select : List SelectPath) :
    DocumentQuery :=
  { query with projection := select.map SelectPath.source }

def MemoryStore.repository (store : MemoryStore) (schema : Schema)
    (paging : Paging) (target : String) : Repository Id DocumentQuery :=
  ⟨DocumentQuery.compiler schema paging, store.executor, target⟩

namespace Repository

variable {schema : Schema} {paging : Paging} {query : Query} {target : String}
  {native : DocumentQuery} {plan : Plan}

theorem of_compile_eq_ok
    (compiled : (DocumentQuery.compiler schema paging).compile query target =
      .ok (native, plan)) :
    native.distinct = query.distinct ∧
    native.projection = query.select.map SelectPath.source := by
  obtain ⟨filter, page, -, -, rfl, rfl⟩ :=
    DocumentQuery.compile_eq_ok_iff.mp compiled
  exact ⟨rfl, rfl⟩

theorem fetch_run (store : MemoryStore)
    (compiled : (DocumentQuery.compiler schema paging).compile query target =
      .ok (native, plan)) :
    ((store.repository schema paging target).fetch query).run =
      .ok (store.execute native, plan.page) := by
  unfold fetch
  simp only [MemoryStore.repository, compiled]
  rfl

section Reading

variable {α Native : Type} {repository : Repository Id Native} {model : Model}
  {select : List SelectPath} {raw : RawPage} {request : PageRequest}

theorem findPage_run :
    (repository.findPage query).run =
      (repository.fetch query).run.map fun (raw, request) =>
      ⟨Model.materializeAll some none raw.rows query.select query.distinct,
        raw.total, request⟩ := by
  unfold findPage
  cases repository.fetch query <;> rfl

theorem findAll_run :
    (repository.findAll query).run =
      (repository.findPage query).run.map Page.content := by
  unfold findAll
  cases repository.findPage query <;> rfl

theorem findPageAs_run (read : Json → Option α) :
    (repository.findPageAs (.ok model) read query).run =
      (typedSelect model query).bind fun select =>
        (repository.fetch { query with select }).run.map fun (raw, request) =>
          ⟨Model.materializeAll read (some model) raw.rows select query.distinct,
            raw.total, request⟩ := by
  have opened : failing DataAccessError.model (ExceptT.mk (pure (.ok model))) =
      (pure model : Request Id Model) := rfl
  rw [findPageAs, opened, pure_bind]
  cases typedSelect model query with
  | error error => rfl
  | ok select =>
    have asked : ExceptT.mk (pure (.ok select)) =
        (pure select : Request Id (List SelectPath)) :=
      rfl
    rw [asked, pure_bind]
    simp only [Except.bind]
    cases repository.fetch { query with select } <;> rfl

theorem findAllAs_run (read : Json → Option α) :
    (repository.findAllAs (.ok model) read query).run =
      (repository.findPageAs (.ok model) read query).run.map Page.content := by
  unfold findAllAs
  cases repository.findPageAs (.ok model) read query <;> rfl

theorem findPage_of_fetch
    (fetched : (repository.fetch query).run = .ok (raw, request)) :
    (repository.findPage query).run =
      .ok ⟨Model.materializeAll some none raw.rows query.select query.distinct,
        raw.total, request⟩ := by
  rw [findPage_run, fetched]
  rfl

theorem findPageAs_of_fetch (read : Json → Option α)
    (asked : typedSelect model query = .ok select)
    (fetched : (repository.fetch { query with select }).run =
      .ok (raw, request)) :
    (repository.findPageAs (.ok model) read query).run =
      .ok ⟨Model.materializeAll read (some model) raw.rows select query.distinct,
        raw.total, request⟩ := by
  simp only [findPageAs_run, asked, Except.bind, fetched, Except.map]

end Reading

theorem selecting_select
    (compiled : (DocumentQuery.compiler schema paging).compile query target =
      .ok (native, plan)) :
    native.selecting query.select = native := by
  rw [DocumentQuery.selecting, ← (of_compile_eq_ok compiled).2]

theorem keep_selecting {select : List SelectPath} (selective : select ≠ [])
    (document : Json) :
    (native.selecting select).keep document =
      document.project ((select.map SelectPath.source).map SelectPath.same) := by
  rw [DocumentQuery.keep, DocumentQuery.selecting, if_neg]
  simpa using selective

theorem lookup_keep_selecting_iff (native : DocumentQuery)
    {select : List SelectPath} (selective : select ≠ []) :
    (∀ document : Json, ∀ pair ∈ select,
      ((native.selecting select).keep document).lookup pair.source =
        document.lookup pair.source) ↔
      SeparateSources select := by
  simp only [keep_selecting selective]
  have sources := Json.lookup_project_iff_apart (select.map SelectPath.source)
  simpa only [SeparateSources, Json.Apart, List.forall_mem_map] using sources

/-- What the store keeps of a document gives back the selected values of every
document exactly when no selected source lies under another one. -/
theorem lookup_keep_iff_separate (selective : query.select ≠ [])
    (compiled : (DocumentQuery.compiler schema paging).compile query target =
      .ok (native, plan)) :
    (∀ document : Json, ∀ pair ∈ query.select,
      (native.keep document).lookup pair.source = document.lookup pair.source) ↔
      SeparateSources query.select := by
  have boundary := lookup_keep_selecting_iff native selective
  rwa [selecting_select compiled] at boundary

theorem findAll_eq (store : MemoryStore) (plain : query.distinct = false)
    (selective : query.select ≠ [])
    (compiled : (DocumentQuery.compiler schema paging).compile query target =
      .ok (native, plan)) :
    ((store.repository schema paging target).findAll query).run =
      .ok ((store.pageOf native).map fun document =>
        (native.keep document).project query.select) := by
  have rows :=
    store.execute_rows_of_not_distinct ((of_compile_eq_ok compiled).1.trans plain)
  have nonempty : query.select.isEmpty = false := by simpa using selective
  rw [findAll_run, findPage_of_fetch (fetch_run store compiled), Except.map,
    Model.materializeAll, plain, rows]
  simp [Function.comp_def, Model.shapeRow, nonempty]

theorem findAllAs_eq {α : Type} (store : MemoryStore)
    (plain : query.distinct = false) (selective : query.select ≠ [])
    (compiled : (DocumentQuery.compiler schema paging).compile query target =
      .ok (native, plan))
    (model : Model) (read : Json → Option α)
    (covered : model.missingTargets query.select = []) :
    ((store.repository schema paging target).findAllAs (.ok model)
      read query).run =
      .ok ((store.pageOf native).filterMap fun document =>
        read (model.project (native.keep document) query.select)) := by
  have rows :=
    store.execute_rows_of_not_distinct ((of_compile_eq_ok compiled).1.trans plain)
  have nonempty : query.select.isEmpty = false := by simpa using selective
  have select : typedSelect model query = .ok query.select := by
    simp [typedSelect, Query.hasSelect, nonempty, covered]
  rw [findAllAs_run, findPageAs_of_fetch read select (fetch_run store compiled),
    Except.map, Model.materializeAll, plain, rows]
  simp [Function.comp_def, Model.shapeRow, nonempty]

/-- Where the selected sources lie beside each other, reading through the store
gives the documents of the page as if they had been projected themselves. They
are read back in full only then. -/
theorem findAll_of_separate_sources (store : MemoryStore)
    (plain : query.distinct = false) (selective : query.select ≠ [])
    (compiled : (DocumentQuery.compiler schema paging).compile query target =
      .ok (native, plan)) :
    ((∀ document : Json, ∀ pair ∈ query.select,
      (native.keep document).lookup pair.source = document.lookup pair.source) ↔
        SeparateSources query.select) ∧
    (SeparateSources query.select →
      ((store.repository schema paging target).findAll query).run =
        .ok ((store.pageOf native).map fun document =>
          document.project query.select) ∧
      ∀ {α : Type} (model : Model) (read : Json → Option α),
        model.missingTargets query.select = [] →
        ((store.repository schema paging target).findAllAs (.ok model)
          read query).run =
          .ok ((store.pageOf native).filterMap fun document =>
            read (model.project document query.select))) := by
  have boundary := lookup_keep_iff_separate selective compiled
  refine ⟨boundary, fun separate => ?_⟩
  have kept := boundary.mpr separate
  constructor
  · rw [findAll_eq store plain selective compiled]
    simp only [fun document => Json.project_congr (kept document)]
  · intro α model read covered
    rw [findAllAs_eq store plain selective compiled model read covered]
    simp only [fun document => model.project_congr (kept document)]

def ann : Json :=
  .object [("name", .string "Ann"),
    ("roles", .array [.object [("level", .string "1"), ("name", .string "clerk")],
      .object [("level", .string "2"), ("name", .string "chief")]])]

def staff : MemoryStore := (MemoryStore.new "people" "id").insert "people" ann

def namesAndRoles : Query :=
  (Query.empty.addSelect "name" "who").addSelect "roles.name" "roles"

theorem namesAndRoles_of_staff :
    ((staff.repository ⟨fun _ => false, '<'⟩ ⟨20, 0, none⟩ "people").findAll
      namesAndRoles).run =
      .ok [.object [("roles", .array [.string "clerk", .string "chief"]),
        ("who", .string "Ann")]] := by
  have lowered : Predicate.ofCriteria ⟨fun _ => false, '<'⟩
      namesAndRoles.criteria = .ok .always := by
    rw [Predicate.ofCriteria, namesAndRoles, Query.addSelect, Query.addSelect,
      Query.empty, Criterion.parts]
    rfl
  have compiled :
      (DocumentQuery.compiler ⟨fun _ => false, '<'⟩ ⟨20, 0, none⟩).compile
      namesAndRoles "people" = .ok
        (⟨"people", .always, [], 0, 20, ["name", "roles.name"], false⟩,
          ⟨.always, [], ⟨0, 20⟩, namesAndRoles.select, false⟩) := by
    rw [Compiler.compile, DocumentQuery.compiler, Plan.ofQuery, lowered]
    rfl
  have found :=
    (findAll_of_separate_sources staff rfl
      (by simp [namesAndRoles, Query.addSelect]) compiled).2 (by decide +kernel)
  have page : staff.pageOf
      ⟨"people", .always, [], 0, 20, ["name", "roles.name"], false⟩ = [ann] := by
    have stored : staff.collection "people" = [ann] := rfl
    simp [MemoryStore.pageOf, stored, Collection.matching, DocumentFilter.holds]
  have who : Path.segments "who" = ["who"] := by decide
  have roleName : Path.segments "roles.name" = ["roles", "name"] := by decide
  have roles : Path.segments "roles" = ["roles"] := by decide
  have before : compare "roles" "who" = .lt := by decide +kernel
  rw [found.1, page]
  simp [namesAndRoles, Query.addSelect, Query.empty, ann, Json.project,
    Json.lookup, Json.get?, Keyed.get?, Json.follow, Json.overItems,
    Json.overItemsOf, Json.insertAlong, Keyed.set, who, roleName, roles, before]

end Repository

end CriteriaQuery
