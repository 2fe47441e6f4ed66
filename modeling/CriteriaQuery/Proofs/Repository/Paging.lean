import CriteriaQuery.Model.Shape
import CriteriaQuery.Proofs.Model.Instance
import CriteriaQuery.Proofs.Model.Selection
import CriteriaQuery.Proofs.Plan.Pages
import CriteriaQuery.Proofs.Store.Distinct

namespace CriteriaQuery

/-! The pages of a query, as a repository over a memory store reads them. With
`distinct`, repetitions are taken out twice: the store does it before it cuts the
pages, by what it keeps of a document, and a page once more by the shapes in which
its rows are read. Where two kept rows have one shape, it stands on several pages
or leaves one of them short, and the total counts it more than once. -/

/-! ## Reading in shape -/

namespace Repository

def shapedSelect (model : Option Model) (query : Query) :
    Except DataAccessError (List SelectPath) :=
  match model with
  | none => .ok query.select
  | some model => typedSelect model query

/-- The page of a query in the shapes in which its rows are read, whether or not
they fit the model. -/
def shapedPage {m : Type → Type} [Monad m] {Native : Type}
    (repository : Repository m Native) (model : Option Model) (query : Query) :
    Request m (Page Json) :=
  match model with
  | none => repository.findPage query
  | some model => repository.findPageAs (.ok model) some query

section Reading

variable {α Native : Type} {repository : Repository Id Native} {model : Model}
  {query : Query}
  {select : List SelectPath} {raw : RawPage} {request : PageRequest}

theorem shapedPage_of_fetch {model : Option Model}
    (asked : shapedSelect model query = .ok select)
    (fetched : (repository.fetch { query with select }).run =
      .ok (raw, request)) :
    (repository.shapedPage model query).run =
      .ok ⟨Model.materializeAll some model raw.rows select query.distinct,
        raw.total, request⟩ := by
  cases model with
  | none =>
    cases asked
    exact findPage_of_fetch fetched
  | some model => exact findPageAs_of_fetch some asked fetched

theorem findPageAs_of_shapedPage (read : Json → Option α) {page : Page Json}
    (shaped : (repository.shapedPage (some model) query).run = .ok page) :
    (repository.findPageAs (.ok model) read query).run =
      .ok ⟨page.content.filterMap read, page.total, page.request⟩ := by
  rw [shapedPage, findPageAs_run] at shaped
  rw [findPageAs_run]
  cases asked : typedSelect model query with
  | error error => simp [asked, Except.bind] at shaped
  | ok select =>
    simp only [asked, Except.bind] at shaped ⊢
    cases fetched : (repository.fetch { query with select }).run with
    | error error => simp [fetched, Except.map] at shaped
    | ok found =>
      simp only [fetched, Except.map] at shaped ⊢
      cases shaped
      simp [Model.materializeAll]

end Reading

end Repository

/-! ## Distinct pages -/

structure DistinctPages (rows : Set Json) (pages : UInt32 → Page Json) :
    Prop where
  /-- No page shows a row twice. -/
  once (number : UInt32) : (pages number).content.Nodup
  /-- No two pages show the same row. -/
  apart (number other : UInt32) : number ≠ other →
    (pages number).content.Disjoint (pages other).content
  /-- Every page but the last is full. -/
  full (number : UInt32) : (pages number).isLast = false →
    (pages number).content.length = (pages number).request.size.toNat
  counted (number : UInt32) : (pages number).total = rows.ncard

namespace Page

theorem lt_total_of_not_isLast {α : Type} {page : Page α}
    (more : page.isLast = false) :
    (page.request.number.toNat + 1) * page.request.size.toNat < page.total := by
  have before : page.request.number.toNat + 1 < page.totalPages :=
    Nat.lt_of_not_le (decide_eq_false_iff_not.mp more)
  rcases Nat.eq_zero_or_pos page.request.size.toNat with zero | positive
  · simp [totalPages, zero] at before
  · rwa [← Nat.not_le, totalPages_le_iff positive, Nat.not_le] at before

variable {rows : List Json} {shape : Json → Json} (size : UInt32)

def slice (rows : List Json) (number : UInt32) : List Json :=
  (rows.drop (number.toNat * size.toNat)).take size.toNat

theorem mem_of_mem_slice {number : UInt32} {row : Json}
    (member : row ∈ slice size rows number) : row ∈ rows :=
  List.mem_of_mem_drop (List.mem_of_mem_take member)

theorem disjoint_slice_of_lt (nodup : rows.Nodup) {earlier later : UInt32}
    (before : earlier.toNat < later.toNat) :
    (slice size rows earlier).Disjoint (slice size rows later) := by
  have through : earlier.toNat * size.toNat + size.toNat ≤
      later.toNat * size.toNat := by
    rw [← Nat.succ_mul]
    exact Nat.mul_le_mul_right size.toNat before
  have parted := List.disjoint_take_drop nodup through
  intro row inEarlier inLater
  apply parted
  · rw [slice, List.take_drop] at inEarlier
    exact List.mem_of_mem_drop inEarlier
  · exact List.mem_of_mem_take inLater

theorem disjoint_slice (nodup : rows.Nodup) {number other : UInt32}
    (different : number ≠ other) :
    (slice size rows number).Disjoint (slice size rows other) := by
  rcases Nat.lt_or_gt_of_ne (UInt32.toNat_inj.not.mpr different) with
    before | after
  · exact disjoint_slice_of_lt size nodup before
  · exact (disjoint_slice_of_lt size nodup after).symm

def ofSlice (shape : Json → Json) (rows : List Json) (number : UInt32) :
    Page Json :=
  ⟨Json.distinct ((slice size rows number).map shape),
    rows.length, ⟨number, size⟩⟩

theorem length_slice_of_not_isLast {number : UInt32}
    (more : (ofSlice size shape rows number).isLast = false) :
    (slice size rows number).length = size.toNat := by
  have after : (number.toNat + 1) * size.toNat < rows.length :=
    lt_total_of_not_isLast more
  rw [Nat.succ_mul] at after
  rw [slice, List.length_take, List.length_drop]
  omega

/-- Pages cut from rows without repetitions are distinct exactly when no two
rows have the same shape. -/
theorem distinctPages_iff_injOn (shape : Json → Json) (nodup : rows.Nodup) :
    DistinctPages (shape '' {row | row ∈ rows}) (ofSlice size shape rows) ↔
      Set.InjOn shape {row | row ∈ rows} := by
  have members := ncard_setOf_mem nodup
  constructor
  · intro distinct
    -- The total counts every row, so no shape can stand for two of them.
    apply Set.injOn_of_ncard_image_eq _ (List.finite_toSet rows)
    rw [members]
    exact (distinct.counted 0).symm
  · intro injective
    have shapesNodup (number : UInt32) :
        ((slice size rows number).map shape).Nodup := by
      apply List.Nodup.map_on
      · intro left leftMember right rightMember
        exact injective (mem_of_mem_slice size leftMember)
          (mem_of_mem_slice size rightMember)
      · exact nodup.drop.take
    -- With one shape for each row nothing is taken out of a page.
    have content (number : UInt32) : (ofSlice size shape rows number).content =
        (slice size rows number).map shape :=
          Json.distinct_of_nodup (shapesNodup number)
    constructor
    · intro number
      rw [content]
      exact shapesNodup number
    · intro number other different
      rw [content, content]
      intro shaped inNumber inOther
      obtain ⟨left, leftMember, rfl⟩ := List.mem_map.mp inNumber
      obtain ⟨right, rightMember, same⟩ := List.mem_map.mp inOther
      have equal := injective (mem_of_mem_slice size rightMember)
        (mem_of_mem_slice size leftMember) same
      exact disjoint_slice size nodup different leftMember (equal ▸ rightMember)
    · intro number more
      rw [content, List.length_map]
      exact length_slice_of_not_isLast size more
    · intro number
      rw [injective.ncard_image, members]
      rfl

end Page

/-! ## Pages of a repository -/

namespace Repository

variable {schema : Schema} {paging : Paging} {query : Query} {target : String}
  {native : DocumentQuery} {plan : Plan} {select : List SelectPath}

theorem compile_select
    (compiled : (DocumentQuery.compiler schema paging).compile query target =
      .ok (native, plan))
    (select : List SelectPath) :
    (DocumentQuery.compiler schema paging).compile { query with select } target =
      .ok (native.selecting select, { plan with select }) := by
  obtain ⟨filter, page, lowered, paged, rfl, rfl⟩ :=
    DocumentQuery.compile_eq_ok_iff.mp compiled
  apply DocumentQuery.compile_eq_ok_iff.mpr
  exact ⟨filter, page, lowered, paged, rfl, rfl⟩

/-- The page of a query does not decide whether it compiles, as long as it has a
size. The page may be smaller than what the query asks for. -/
theorem compile_setPage
    (compiled : (DocumentQuery.compiler schema paging).compile query target =
      .ok (native, plan))
    {size : UInt32} (positive : 0 < size) :
    ∃ limit : UInt32, ∀ number,
      (DocumentQuery.compiler schema paging).compile (query.setPage number size)
          target =
        .ok ({ native with
            skip := number.toNat * limit.toNat, limit := limit.toNat },
          { plan with page := ⟨number, limit⟩ }) := by
  obtain ⟨filter, page, lowered, -, rfl, rfl⟩ :=
    DocumentQuery.compile_eq_ok_iff.mp compiled
  have nonzero : size ≠ 0 := by
    intro zero
    subst zero
    exact absurd positive (UInt32.lt_irrefl 0)
  obtain ⟨limit, paged⟩ : ∃ limit, ∀ number,
      Plan.pageOf paging (query.setPage number size) = .ok ⟨number, limit⟩ := by
    simp only [Plan.pageOf, Query.setPage, Option.getD_some, nonzero, if_false]
    cases paging.maxSize with
    | none => exact ⟨size, fun number => rfl⟩
    | some max => exact ⟨if max < size then max else size, fun number => rfl⟩
  refine ⟨limit, fun number => ?_⟩
  apply DocumentQuery.compile_eq_ok_iff.mpr
  exact ⟨filter, ⟨number, limit⟩, lowered, paged number, rfl, rfl⟩

theorem shapedPage_setPage (store : MemoryStore) {model : Option Model}
    (distinct : query.distinct = true)
    (compiled : (DocumentQuery.compiler schema paging).compile query target =
      .ok (native, plan))
    (asked : shapedSelect model query = .ok select) {size : UInt32}
    (positive : 0 < size) :
    ∃ limit : UInt32, ∀ number,
      ((store.repository schema paging target).shapedPage model
        (query.setPage number size)).run =
          .ok (Page.ofSlice limit (Model.shapeRow model · select)
            ((store.collection native.collection).rows (native.selecting select))
              number) := by
  obtain ⟨limit, paged⟩ :=
    compile_setPage (compile_select compiled select) positive
  refine ⟨limit, fun number => ?_⟩
  have askedAgain : shapedSelect model (query.setPage number size) =
      .ok select := by
    rw [← asked]
    cases model <;> rfl
  rw [shapedPage_of_fetch askedAgain (fetch_run store (paged number))]
  have distinctAgain : (query.setPage number size).distinct = true := distinct
  rw [Model.materializeAll, distinctAgain]
  simp only [if_true, List.filterMap_some]
  rfl

def shapes (documents : Collection) (native : DocumentQuery)
    (model : Option Model) (select : List SelectPath) : Set Json :=
  (Model.shapeRow model · select) ''
    ((native.selecting select).keep '' documents.found native)

theorem keep_congr {left right : Json} (selective : select ≠ [])
    (agree : ∀ pair ∈ select,
      left.lookup pair.source = right.lookup pair.source) :
    (native.selecting select).keep left =
      (native.selecting select).keep right := by
  rw [keep_selecting selective, keep_selecting selective]
  apply Json.project_congr
  simpa only [List.forall_mem_map, SelectPath.same] using agree

def TellsApart (model : Option Model) (select : List SelectPath)
    (documents : Set Json) : Prop :=
  match model with
  | none => Json.SeparateTargets select
  | some model => model.TellsApart select documents

theorem targets_of_typedSelect {model : Model}
    (asked : typedSelect model query = .ok select) :
    ∀ found ∈ model.leaves, ∃ pair ∈ select, pair.target = found.target := by
  intro found member
  unfold typedSelect at asked
  split at asked
  · split at asked
    next complete =>
      cases asked
      have target :=
        List.filter_eq_nil_iff.mp complete found.target
          (List.mem_map_of_mem member)
      simpa using target
    next => cases asked
  · cases asked
    exact ⟨⟨found.source, found.target⟩, List.mem_map_of_mem member, rfl⟩

theorem injOn_shapeRow {model : Option Model}
    (asked : shapedSelect model query = .ok select)
    (sources : SeparateSources select) {documents : Set Json}
    (told : TellsApart model select documents) :
    Set.InjOn (Model.shapeRow model · select)
      ((native.selecting select).keep '' documents) := by
  intro row rowMember other otherMember same
  by_cases selective : select = []
  · subst selective
    exact same
  · obtain ⟨document, documentMember, rfl⟩ := rowMember
    obtain ⟨another, anotherMember, rfl⟩ := otherMember
    have nonempty : select.isEmpty = false := by simpa using selective
    have read := (lookup_keep_selecting_iff native selective).mpr sources
    apply keep_congr selective
    intro pair member
    cases model with
    | none =>
      simp only [Model.shapeRow, nonempty, Bool.false_eq_true, if_false] at same
      have atTarget :=
        Json.reach?_project told ((native.selecting select).keep document) member
      rw [same, Json.reach?_project told _ member, read _ _ member,
        read _ _ member] at atTarget
      exact (Option.some.inj atTarget).symm
    | some model =>
      simp only [Model.shapeRow, nonempty, Bool.false_eq_true, if_false] at same
      obtain ⟨found, foundMember, target, coerced⟩ :=
        told.coerce_lookup_eq (targets_of_typedSelect asked) same member
      rw [read _ _ member, read _ _ member] at coerced
      exact told.coerced found foundMember pair member target.symm
        ⟨document, documentMember, rfl⟩ ⟨another, anotherMember, rfl⟩ coerced

/-- The pages of a distinct query are distinct exactly when no two rows that
the store keeps of the matching documents have the same shape. That is so whenever
no source lies under another one and the shapes tell the documents apart. Reading
the pages through a model leaves out the rows that do not fit. -/
theorem distinctPages_iff (store : MemoryStore) (model : Option Model)
    (distinct : query.distinct = true)
    (compiled : (DocumentQuery.compiler schema paging).compile query target =
      .ok (native, plan))
    (asked : shapedSelect model query = .ok select) {size : UInt32}
    (positive : 0 < size) :
    ∃ pages : UInt32 → Page Json,
      (∀ number, ((store.repository schema paging target).shapedPage model
        (query.setPage number size)).run = .ok (pages number)) ∧
      (DistinctPages (shapes (store.collection native.collection) native
          model select) pages ↔
        Set.InjOn (Model.shapeRow model · select)
          ((native.selecting select).keep ''
            (store.collection native.collection).found native)) ∧
      (SeparateSources select →
        TellsApart model select
          ((store.collection native.collection).found native) →
        DistinctPages (shapes (store.collection native.collection) native
          model select) pages) ∧
      ∀ typed, model = some typed → ∀ {α : Type} (read : Json → Option α) number,
        ((store.repository schema paging target).findPageAs (.ok typed) read
          (query.setPage number size)).run =
            .ok ⟨(pages number).content.filterMap read, (pages number).total,
              (pages number).request⟩ := by
  obtain ⟨limit, paged⟩ :=
    shapedPage_setPage store distinct compiled asked positive
  have keptOnce := (of_compile_eq_ok compiled).1.trans distinct
  have rows : {row | row ∈ (store.collection native.collection).rows
        (native.selecting select)} =
      (native.selecting select).keep ''
        (store.collection native.collection).found native :=
    Collection.setOf_mem_rows _ _
  have nodup : ((store.collection native.collection).rows
      (native.selecting select)).Nodup :=
    Collection.nodup_rows keptOnce
  have boundary :=
    Page.distinctPages_iff_injOn limit (Model.shapeRow model · select) nodup
  rw [rows] at boundary
  refine ⟨_, paged, boundary, ?_, ?_⟩
  · intro sources told
    exact boundary.mpr (injOn_shapeRow asked sources told)
  · intro typed modelled α read number
    subst modelled
    exact findPageAs_of_shapedPage read (paged number)

def mathByNumber : Json := .object [("id", .ofNat 1), ("name", .string "Math")]

def mathByText : Json := .object [("id", .string "1"), ("name", .string "Math")]

def departments : MemoryStore :=
  ((MemoryStore.new "departments" "id").insert "departments" mathByNumber).insert
    "departments" mathByText

def departmentView (kind : FieldKind) : Model :=
  ⟨"DepartmentView", .record, [.leaf "id" "id" kind, .leaf "title" "name" .any]⟩

def unnested : Schema := ⟨fun _ => false, '<'⟩

def twenty : Paging := ⟨20, 0, none⟩

def everyDepartment : Query := Query.empty.setDistinct true

def departmentsOnce : DocumentQuery :=
  ⟨"departments", .always, [], 0, 20, [], true⟩

theorem compile_everyDepartment :
    (DocumentQuery.compiler unnested twenty).compile everyDepartment
    "departments" = .ok (departmentsOnce, ⟨.always, [], ⟨0, 20⟩, [], true⟩) := by
  apply DocumentQuery.compile_eq_ok_iff.mpr
  exact ⟨.always, ⟨0, 20⟩, Predicate.ofCriteria_nil unnested, rfl, rfl, rfl⟩

theorem found_departmentsOnce (first second : Json) :
    Collection.found [first, second] departmentsOnce = {first, second} := by
  ext document
  simp [Collection.found, departmentsOnce, DocumentFilter.holds]

theorem tellsApart_departmentView (documents : Set Json) :
    (departmentView .any).TellsApart (departmentView .any).select documents := by
  constructor
  · simp [departmentView, ModelField.AreNamed, ModelField.IsNamed,
      ModelField.name]
  · decide
  · intro pair member
    obtain ⟨found, foundMember, rfl⟩ := List.mem_map.mp member
    exact ⟨found, foundMember, rfl⟩
  · intro found foundMember pair member target left leftMember
      right rightMember same
    have kinds : ∀ found ∈ (departmentView .any).leaves,
      found.kind = .any := by decide
    rw [kinds found foundMember] at same
    exact same

/-- Read as they are stored, the two departments have different numbers. Read
with an integer they are the same one, and each of them has a page. -/
theorem departments_twice :
    (∃ pages : UInt32 → Page Json,
      (∀ number,
        ((departments.repository unnested twenty "departments").shapedPage
          (some (departmentView .any)) (everyDepartment.setPage number 1)).run =
            .ok (pages number)) ∧
      DistinctPages (shapes (departments.collection "departments") departmentsOnce
        (some (departmentView .any)) (departmentView .any).select) pages) ∧
    ∃ pages : UInt32 → Page Json,
      (∀ number,
        ((departments.repository unnested twenty "departments").shapedPage
          (some (departmentView (.integer .w32)))
          (everyDepartment.setPage number 1)).run = .ok (pages number)) ∧
      ¬ DistinctPages
        (shapes (departments.collection "departments") departmentsOnce
          (some (departmentView (.integer .w32)))
          (departmentView (.integer .w32)).select) pages := by
  have one : (0 : UInt32) < 1 := by decide
  constructor
  · obtain ⟨pages, paged, -, apart, -⟩ := distinctPages_iff departments
      (some (departmentView .any)) rfl compile_everyDepartment rfl one
    exact ⟨pages, paged, apart (by decide) (tellsApart_departmentView _)⟩
  · obtain ⟨pages, paged, boundary, -, -⟩ := distinctPages_iff departments
      (some (departmentView (.integer .w32))) rfl compile_everyDepartment rfl one
    refine ⟨pages, paged, fun distinct => ?_⟩
    have injective := boundary.mp distinct
    have stored : departments.collection departmentsOnce.collection =
        [mathByNumber, mathByText] :=
      rfl
    rw [stored, found_departmentsOnce] at injective
    let view := departmentView (.integer .w32)
    let keep := (departmentsOnce.selecting view.select).keep
    have sameShape : Model.shapeRow (some view) (keep mathByNumber) view.select =
        Model.shapeRow (some view) (keep mathByText) view.select :=
      Json.text_injective (by decide +kernel)
    have sameRow : keep mathByNumber = keep mathByText :=
      injective ⟨mathByNumber, by simp, rfl⟩ ⟨mathByText, by simp, rfl⟩ sameShape
    have different : (keep mathByNumber).text ≠ (keep mathByText).text := by
      decide +kernel
    exact different (congrArg Json.text sameRow)

/-! ## Totals -/

def totalSelecting (store : MemoryStore) (native : DocumentQuery)
    (select : List SelectPath) : Nat :=
  ((store.collection native.collection).rows (native.selecting select)).length

theorem count_run (store : MemoryStore)
    (compiled : (DocumentQuery.compiler schema paging).compile query target =
      .ok (native, plan)) :
    ((store.repository schema paging target).count query).run =
      .ok (totalSelecting store native query.select) := by
  rw [totalSelecting, selecting_select compiled, count]
  simp only [MemoryStore.repository, compiled]
  rfl

theorem total_findPage (store : MemoryStore)
    (compiled : (DocumentQuery.compiler schema paging).compile query target =
      .ok (native, plan)) :
    ∃ page, ((store.repository schema paging target).findPage query).run =
      .ok page ∧ page.total = totalSelecting store native query.select := by
  refine ⟨_, findPage_of_fetch (fetch_run store compiled), ?_⟩
  rw [totalSelecting, selecting_select compiled]
  rfl

theorem total_findPageAs (store : MemoryStore) {α : Type} {model : Model}
    {read : Json → Option α} {page : Page α}
    (asked : typedSelect model query = .ok select)
    (compiled : (DocumentQuery.compiler schema paging).compile query target =
      .ok (native, plan))
    (answered : ((store.repository schema paging target).findPageAs
      (.ok model) read query).run = .ok page) :
    page.total = totalSelecting store native select := by
  rw [findPageAs_of_fetch read asked
    (fetch_run store (compile_select compiled select))] at answered
  cases answered
  rfl

theorem totalSelecting_of_not_distinct (store : MemoryStore)
    (plain : native.distinct = false) (select : List SelectPath) :
    totalSelecting store native select =
      ((store.collection native.collection).matching native).length := by
  have rows : (store.collection native.collection).rows
      (native.selecting select) = _ :=
    Collection.rows_of_not_distinct plain
  rw [totalSelecting, rows, List.length_map]
  rfl

theorem totalSelecting_of_distinct (store : MemoryStore)
    (distinct : native.distinct = true) (select : List SelectPath) :
    totalSelecting store native select = ((native.selecting select).keep ''
      (store.collection native.collection).found native).ncard := by
  have stillDistinct : (native.selecting select).distinct = true := distinct
  exact Collection.length_rows stillDistinct

theorem exists_typedSelect {Native α : Type} {repository : Repository Id Native}
    {model : Model} {read : Json → Option α} {page : Page α}
    (answered : (repository.findPageAs (.ok model) read query).run = .ok page) :
    ∃ select, typedSelect model query = .ok select := by
  rw [findPageAs_run] at answered
  cases asked : typedSelect model query with
  | error error => simp [asked, Except.bind] at answered
  | ok select => exact ⟨select, rfl⟩

theorem typedSelect_of_select {model : Model} (selective : query.select ≠ [])
    (asked : typedSelect model query = .ok select) : select = query.select := by
  have hasSelect : query.hasSelect = true := by
    simpa [Query.hasSelect] using selective
  rw [typedSelect, if_pos hasSelect] at asked
  split at asked
  · cases asked
    rfl
  · cases asked

/-- Counting a query and reading a page of it, with or without a model, give the
same total, unless the query is distinct and leaves the projection to the model.
Then the matching documents are counted as they are, and in the typed total by
what the model's projection keeps of them. -/
theorem totals_agree (store : MemoryStore) {α : Type} {model : Model}
    {read : Json → Option α} {page : Page α}
    (compiled : (DocumentQuery.compiler schema paging).compile query target =
      .ok (native, plan))
    (answered : ((store.repository schema paging target).findPageAs
      (.ok model) read query).run = .ok page) :
    ∃ total,
      ((store.repository schema paging target).count query).run = .ok total ∧
      (∃ rows,
        ((store.repository schema paging target).findPage query).run =
          .ok rows ∧ rows.total = total) ∧
      (query.distinct = false ∨ query.select ≠ [] → page.total = total) ∧
      (query.distinct = true → query.select = [] →
        total = ((store.collection native.collection).found native).ncard ∧
        page.total = ((native.selecting model.select).keep ''
          (store.collection native.collection).found native).ncard ∧
        page.total ≤ total ∧
        (page.total = total ↔ Set.InjOn (native.selecting model.select).keep
          ((store.collection native.collection).found native))) := by
  refine ⟨_, count_run store compiled, total_findPage store compiled, ?_, ?_⟩
  · intro settled
    obtain ⟨select, asked⟩ := exists_typedSelect answered
    rw [total_findPageAs store asked compiled answered]
    rcases settled with plain | selective
    · have stillPlain := (of_compile_eq_ok compiled).1.trans plain
      rw [totalSelecting_of_not_distinct store stillPlain,
        totalSelecting_of_not_distinct store stillPlain]
    · rw [typedSelect_of_select selective asked]
  · intro distinct unselected
    have stillDistinct := (of_compile_eq_ok compiled).1.trans distinct
    have asked : typedSelect model query = .ok model.select := by
      simp [typedSelect, Query.hasSelect, unselected]
    have typed := total_findPageAs store asked compiled answered
    have untyped := totalSelecting_of_distinct store stillDistinct []
    have whole : (native.selecting []).keep = id := rfl
    have finite := (store.collection native.collection).finite_found native
    rw [totalSelecting_of_distinct store stillDistinct] at typed
    rw [whole, Set.image_id] at untyped
    rw [unselected, untyped, typed]
    refine ⟨rfl, rfl, Set.ncard_image_le finite, ?_⟩
    constructor
    · intro same
      exact Set.injOn_of_ncard_image_eq same finite
    · intro injective
      exact injective.ncard_image

def smallBudget : Json :=
  .object [("budget", .ofNat 10), ("id", .ofNat 1), ("name", .string "Math")]

def largeBudget : Json :=
  .object [("budget", .ofNat 20), ("id", .ofNat 1), ("name", .string "Math")]

def budgets : MemoryStore :=
  ((MemoryStore.new "departments" "id").insert "departments" smallBudget).insert
    "departments" largeBudget

def numberedView : Model := departmentView (.integer .w32)

def readDepartment : Json → Option Json :=
  (Shape.record [("id", none, .integer 32), ("title", none, .text)]).read?

theorem total_budgets (select : List SelectPath) :
    totalSelecting budgets departmentsOnce select =
    ((departmentsOnce.selecting select).keep ''
      {smallBudget, largeBudget}).ncard := by
  have stored : budgets.collection departmentsOnce.collection =
    [smallBudget, largeBudget] := rfl
  rw [totalSelecting_of_distinct budgets rfl, stored, found_departmentsOnce]

/-- The model does not read the budget, so it sees one department where there are
two documents. -/
theorem budgets_counted_twice :
    ((budgets.repository unnested twenty "departments").count
      everyDepartment).run = .ok 2 ∧
    (∃ rows,
      ((budgets.repository unnested twenty "departments").findPage
        everyDepartment).run = .ok rows ∧ rows.total = 2) ∧
    ∃ page,
      ((budgets.repository unnested twenty "departments").findPageAs
        (.ok numberedView) readDepartment everyDepartment).run = .ok page ∧
      page.total = 1 := by
  have different : smallBudget ≠ largeBudget := by
    intro same
    have differentText : smallBudget.text ≠ largeBudget.text := by decide +kernel
    exact differentText (congrArg Json.text same)
  have documents : totalSelecting budgets departmentsOnce [] = 2 := by
    have whole : (departmentsOnce.selecting []).keep = id := rfl
    rw [total_budgets, whole, Set.image_id, Set.ncard_pair different]
  have views : totalSelecting budgets departmentsOnce
      numberedView.select = 1 := by
    have same : (departmentsOnce.selecting numberedView.select).keep smallBudget =
        (departmentsOnce.selecting numberedView.select).keep largeBudget :=
      Json.text_injective (by decide +kernel)
    rw [total_budgets, Set.image_pair, same, Set.pair_eq_singleton,
      Set.ncard_singleton]
  refine ⟨?_, ?_, ?_⟩
  · rw [count_run budgets compile_everyDepartment]
    exact congrArg Except.ok documents
  · obtain ⟨rows, found, total⟩ := total_findPage budgets compile_everyDepartment
    exact ⟨rows, found, total.trans documents⟩
  · have fetched :=
      fetch_run budgets
        (compile_select compile_everyDepartment numberedView.select)
    have answered := findPageAs_of_fetch readDepartment rfl fetched
    exact ⟨_, answered, views⟩

def viewedDepartment : Query :=
  { everyDepartment with select := numberedView.select }

theorem budgets_viewed : ∃ page,
    ((budgets.repository unnested twenty "departments").findPageAs
      (.ok numberedView) readDepartment viewedDepartment).run = .ok page ∧
    ((budgets.repository unnested twenty "departments").count
      viewedDepartment).run = .ok page.total ∧
    ∃ rows,
      ((budgets.repository unnested twenty "departments").findPage
        viewedDepartment).run = .ok rows ∧ rows.total = page.total := by
  have compiled := compile_select compile_everyDepartment numberedView.select
  have asked : typedSelect numberedView viewedDepartment =
      .ok numberedView.select := by
    decide +kernel
  have answered :=
    findPageAs_of_fetch readDepartment asked (fetch_run budgets compiled)
  obtain ⟨total, counted, untyped, agreed, -⟩ :=
    totals_agree budgets compiled answered
  have same := agreed (.inr (by decide))
  rw [← same] at counted untyped
  exact ⟨_, answered, counted, untyped⟩

end Repository

end CriteriaQuery
