import CriteriaQuery.Document.Query
import CriteriaQuery.Proofs.Plan.Guards
import CriteriaQuery.Proofs.Sql.Values
import CriteriaQuery.Search.Request

namespace CriteriaQuery

/-! When compiling fails, and with which error. Nested lists are the only criteria
that can be at fault, wherever they stand, and the first faulty item is the one
that is reported. -/

/-! ## Results with an expected error -/

def FailsBy {ε α : Type} (fault : Option ε) (result : Except ε α) : Prop :=
  match fault with
  | some error => result = .error error
  | none => ∃ value, result = .ok value

namespace FailsBy

variable {ε α β : Type}

theorem bind {first second : Option ε} {step : Except ε α}
    {further : α → Except ε β} (failsFirst : FailsBy first step)
    (failsSecond : ∀ value, FailsBy second (further value)) :
    FailsBy (first.or second) (step >>= further) := by
  cases first with
  | some error =>
    have failed : step = .error error := failsFirst
    rw [failed]
    rfl
  | none =>
    obtain ⟨value, rfl⟩ := failsFirst
    exact failsSecond value

theorem map {fault : Option ε} {result : Except ε α}
    (fails : FailsBy fault result) (change : α → β) :
    FailsBy fault (result.map change) := by
  cases fault with
  | some error =>
    have failed : result = .error error := fails
    rw [failed]
    rfl
  | none =>
    obtain ⟨value, rfl⟩ := fails
    exact ⟨_, rfl⟩

theorem mapError {ε' : Type} {fault : Option ε} {result : Except ε α}
    (fails : FailsBy fault result) (change : ε → ε') :
    FailsBy (fault.map change) (result.mapError change) := by
  cases fault with
  | some error =>
    have failed : result = .error error := fails
    rw [failed]
    rfl
  | none =>
    obtain ⟨value, rfl⟩ := fails
    exact ⟨value, rfl⟩

theorem eq_error_iff {fault : Option ε} {result : Except ε α}
    (fails : FailsBy fault result) {error : ε} :
    result = .error error ↔ fault = some error := by
  cases fault with
  | some other =>
    have failed : result = .error other := fails
    simp [failed]
  | none =>
    obtain ⟨value, rfl⟩ := fails
    simp

end FailsBy

namespace Criterion

/-! ## Faulty items -/

def listedItems (criterion : Criterion) : List Json :=
  match criterion.operator, criterion.values with
  | some .parentheses, .array items :: _ => items
  | _, _ => []

def decoded (items : List Json) : List Criterion :=
  items.filterMap fun item => (ofJson item).toOption

def fault? (item : Json × Nat) : Option CriteriaError :=
  match nestedItem item.2 item.1 with
  | .error error => some error
  | .ok _ => none

theorem ofName?_of_ofJson {item : Json} {criterion : Criterion} {name : String}
    (read : ofJson item = .ok criterion)
    (given : item.get? "operation" = some (.string name)) :
    ∃ operator, Operator.ofName? name = some operator := by
  cases item with
  | object members =>
    have operation : Keyed.get? "operation" members = some (.string name) := given
    simp only [ofJson, Decode.record, List.map_cons, List.map_nil, operation,
      ofFields, Decode.orDefault, decodeOperator, bind, Except.bind] at read
    cases known : Operator.ofName? name with
    | some operator => exact ⟨operator, rfl⟩
    | none =>
      rw [known] at read
      split at read <;> cases read
  | _ => cases given

/-- An item is decoded exactly when it is a criterion; its place only matters to
the error. -/
theorem nestedItem_eq_ok_iff {index : Nat} {item : Json} {criterion : Criterion} :
    nestedItem index item = .ok criterion ↔ ofJson item = .ok criterion := by
  refine ⟨ofJson_of_nestedItem, fun read => ?_⟩
  have plain : nestedItem.read index item = .ok criterion := by
    rw [nestedItem.read, read]
  unfold nestedItem
  split
  next name given =>
    obtain ⟨operator, known⟩ := ofName?_of_ofJson read given
    simpa [known] using plain
  next => exact plain

theorem fails_nestedItem (item : Json) (index : Nat) :
    FailsBy (fault? (item, index)) (nestedItem index item) := by
  unfold fault?
  cases decodes : nestedItem index item with
  | error error => exact rfl
  | ok criterion => exact ⟨criterion, rfl⟩

theorem exists_fault_iff {item : Json} {index : Nat} :
    (∃ error, fault? (item, index) = some error) ↔
    ∃ error, ofJson item = .error error := by
  cases decodes : ofJson item with
  | ok criterion =>
    have nested : nestedItem index item = .ok criterion :=
      nestedItem_eq_ok_iff.mpr decodes
    simp [fault?, nested]
  | error refused =>
    cases nested : nestedItem index item with
    | ok criterion =>
      rw [nestedItem_eq_ok_iff.mp nested] at decodes; cases decodes
    | error error => simp [fault?, nested]

theorem findSome?_cons {α β : Type} (find : α → Option β) (item : α)
    (rest : List α) :
    (item :: rest).findSome? find = (find item).or (rest.findSome? find) := by
  rw [List.findSome?]
  cases find item <;> rfl

theorem fails_nestedItems (items : List Json) (index : Nat) :
    FailsBy ((items.zipIdx index).findSome? fault?)
      (nestedItems index items) := by
  induction items generalizing index with
  | nil => exact ⟨[], rfl⟩
  | cons item rest induction =>
    rw [List.zipIdx_cons, findSome?_cons, nestedItems]
    refine (fails_nestedItem item index).bind fun criterion => ?_
    exact (induction (index + 1)).map (criterion :: ·)

theorem decoded_cons_of_ok {item : Json} {criterion : Criterion}
    (read : ofJson item = .ok criterion) (rest : List Json) :
    decoded (item :: rest) = criterion :: decoded rest := by
  simp [decoded, read, Except.toOption]

theorem decoded_cons_of_error {item : Json} {error : DecodeError}
    (refused : ofJson item = .error error) (rest : List Json) :
    decoded (item :: rest) = decoded rest := by
  simp [decoded, refused, Except.toOption]

theorem nestedItems_eq_decoded {items : List Json} {index : Nat}
    {criteria : List Criterion} (read : nestedItems index items = .ok criteria) :
    criteria = decoded items := by
  induction items generalizing index criteria with
  | nil =>
    cases read
    rfl
  | cons item rest induction =>
    simp only [nestedItems, bind, Except.bind, pure, Except.pure] at read
    split at read
    · cases read
    next criterion first =>
      split at read
      · cases read
      next others tail =>
        cases read
        rw [decoded_cons_of_ok (nestedItem_eq_ok_iff.mp first), induction tail]

theorem totalWeight_decoded_le (items : List Json) :
    totalWeight (decoded items) ≤ Json.itemsSize items := by
  induction items with
  | nil => simp [decoded, totalWeight]
  | cons item rest induction =>
    rw [Json.itemsSize]
    cases read : ofJson item with
    | error error =>
      rw [decoded_cons_of_error read]
      omega
    | ok criterion =>
      have := weight_le_of_ofJson read
      rw [decoded_cons_of_ok read, totalWeight_cons]
      omega

theorem totalWeight_decoded_lt (criterion : Criterion) :
    totalWeight (decoded criterion.listedItems) < criterion.weight := by
  have bound := totalWeight_decoded_le criterion.listedItems
  unfold listedItems at bound ⊢
  split at bound
  next items more _ values =>
    simp only [weight, values, Json.itemsSize, Json.size]
    omega
  next =>
    simp [decoded, totalWeight, weight]

/-! ## The order of decoding -/

/-- The items of nested lists with their places, in the order in which they are
decoded: each list as a whole before the lists inside it. -/
def decodingOrder : List Criterion → List (Json × Nat)
  | [] => []
  | criterion :: rest =>
    criterion.listedItems.zipIdx ++ decodingOrder
      (decoded criterion.listedItems) ++ decodingOrder rest
termination_by criteria => totalWeight criteria
decreasing_by
  all_goals rw [totalWeight_cons]
  · have := totalWeight_decoded_lt criterion
    omega
  · simp [weight]

def firstFault? (criteria : List Criterion) : Option CriteriaError :=
  (decodingOrder criteria).findSome? fault?

theorem firstFault?_cons (criterion : Criterion) (rest : List Criterion) :
    firstFault? (criterion :: rest) =
      ((criterion.listedItems.zipIdx.findSome? fault?).or
        (firstFault? (decoded criterion.listedItems))).or (firstFault? rest) := by
  rw [firstFault?, decodingOrder, List.findSome?_append, List.findSome?_append]
  rfl

@[simp] theorem firstFault?_nil : firstFault? [] = none := by
  rw [firstFault?, decodingOrder]
  rfl

variable {schema : Schema} {criterion : Criterion}

/-- A parentheses criterion holds a list, and that is decoded item by item, or it
holds none. -/
theorem listedItems_of_parentheses
    (operator : criterion.operator = some .parentheses) :
    criterion.nested = (nestedItems 0 criterion.listedItems).map some ∨
      criterion.listedItems = [] ∧ criterion.nested = .ok none := by
  cases values : criterion.values with
  | nil => simp [listedItems, nested, operator, values]
  | cons first more =>
    cases first <;> simp [listedItems, nested, operator, values]

theorem listedItems_of_not_parentheses
    (other : criterion.operator ≠ some .parentheses) :
    criterion.listedItems = [] := by
  unfold listedItems
  split
  next operator _ => exact absurd operator other
  next => rfl

theorem part_of_listedItems_eq_nil (empty : criterion.listedItems = []) :
    ∃ part, criterion.part schema = .ok part := by
  by_cases nests : criterion.operator = some .parentheses
  · have unopened : criterion.nested = .ok none ∨
        criterion.nested = .ok (some []) := by
      rcases listedItems_of_parentheses nests with opened | ⟨-, unopened⟩
      · rw [opened, empty]
        exact .inr rfl
      · exact .inl unopened
    exact ⟨_, part_of_unopened nests unopened⟩
  · by_cases separates : criterion.operator = some .or
    · exact ⟨_, part_of_or separates⟩
    · exact ⟨_, part_of_field separates nests⟩

/-- A criterion fails on the items of its list first and then on the lists inside
them. -/
theorem fails_part (inside : FailsBy (firstFault? (decoded criterion.listedItems))
      (parts schema (decoded criterion.listedItems))) :
    FailsBy ((criterion.listedItems.zipIdx.findSome? fault?).or
        (firstFault? (decoded criterion.listedItems)))
          (criterion.part schema) := by
  by_cases empty : criterion.listedItems = []
  · rw [empty, decoded, List.filterMap_nil, firstFault?_nil]
    exact part_of_listedItems_eq_nil empty
  · have nests : criterion.operator = some .parentheses :=
      Classical.not_not.mp fun other =>
        empty (listedItems_of_not_parentheses other)
    have opened :=
      (listedItems_of_parentheses nests).resolve_right fun absent =>
        empty absent.1
    have fails := fails_nestedItems criterion.listedItems 0
    -- A fault among the items comes before all faults of the lists inside them.
    cases fault : criterion.listedItems.zipIdx.findSome? fault? with
    | some error =>
      rw [fault] at fails
      have failed : nestedItems 0 criterion.listedItems = .error error := fails
      rw [failed] at opened
      exact part_of_malformed nests opened
    | none =>
      rw [fault] at fails
      obtain ⟨nestedCriteria, read⟩ := fails
      rw [Option.none_or, ← nestedItems_eq_decoded read]
      rw [← nestedItems_eq_decoded read] at inside
      rw [read] at opened
      cases nestedCriteria with
      | nil =>
        rw [firstFault?_nil]
        exact ⟨_, part_of_unopened nests (.inr opened)⟩
      | cons first more =>
        rw [part_of_opened nests opened (List.cons_ne_nil first more)]
        exact (inside.map Part.combine).map Part.predicate

theorem fails_parts (criteria : List Criterion) :
    FailsBy (firstFault? criteria) (parts schema criteria) := by
  -- Along the order of decoding: the list inside the first criterion, then the
  -- rest.
  induction criteria using decodingOrder.induct with
  | case1 =>
    rw [firstFault?_nil, parts]
    exact ⟨[], rfl⟩
  | case2 criterion rest inside others =>
    rw [firstFault?_cons, parts_cons]
    exact (fails_part inside).bind fun part => others.map (part :: ·)

/-- Lowering fails on the first faulty item, and on nothing else. -/
theorem fails_ofCriteria (criteria : List Criterion) :
    FailsBy (firstFault? criteria) (Predicate.ofCriteria schema criteria) :=
  (fails_parts criteria).map Part.combine

/-! ## Where a fault can be -/

/-- The criterion stands in the list, or inside the nested list of a criterion of
it, at any depth. -/
inductive Occurs (criterion : Criterion) : List Criterion → Prop
  | listed {criteria : List Criterion} : criterion ∈ criteria →
      Occurs criterion criteria
  | inside {outer : Criterion} {criteria : List Criterion} : outer ∈ criteria →
      Occurs criterion (decoded outer.listedItems) → Occurs criterion criteria

def IsMalformed (criterion : Criterion) : Prop :=
  ∃ item ∈ criterion.listedItems, ∃ error, ofJson item = .error error

theorem not_occurs_nil : ¬ Occurs criterion [] := by
  intro occurs
  cases occurs with
  | listed member => cases member
  | inside member _ => cases member

theorem occurs_cons_iff {first : Criterion} {rest : List Criterion} :
    Occurs criterion (first :: rest) ↔
      criterion = first ∨ Occurs criterion (decoded first.listedItems) ∨
        Occurs criterion rest := by
  constructor
  · intro occurs
    cases occurs with
    | listed member =>
      rcases List.mem_cons.mp member with same | member
      · exact .inl same
      · exact .inr (.inr (.listed member))
    | inside member deeper =>
      rcases List.mem_cons.mp member with rfl | member
      · exact .inr (.inl deeper)
      · exact .inr (.inr (.inside member deeper))
  · rintro (rfl | deeper | later)
    · exact .listed List.mem_cons_self
    · exact .inside List.mem_cons_self deeper
    · cases later with
      | listed member => exact .listed (List.mem_cons_of_mem _ member)
      | inside member deeper =>
        exact .inside (List.mem_cons_of_mem _ member) deeper

theorem mem_decodingOrder_iff {item : Json} {criteria : List Criterion} :
    (∃ index, (item, index) ∈ decodingOrder criteria) ↔
      ∃ criterion, Occurs criterion criteria ∧ item ∈ criterion.listedItems := by
  induction criteria using decodingOrder.induct with
  | case1 => simp [decodingOrder, not_occurs_nil]
  | case2 first rest inside others =>
    have own : (∃ index, (item, index) ∈ first.listedItems.zipIdx) ↔
        item ∈ first.listedItems := by
      rw [List.mem_iff_getElem?]
      exact exists_congr fun index => List.mk_mem_zipIdx_iff_getElem?
    rw [decodingOrder]
    simp only [List.mem_append, exists_or, own, inside, others, occurs_cons_iff,
      or_and_right, exists_eq_left, or_assoc]

theorem exists_firstFault_iff {criteria : List Criterion} :
    (∃ error, firstFault? criteria = some error) ↔
      ∃ criterion, Occurs criterion criteria ∧ criterion.IsMalformed := by
  rw [← Option.isSome_iff_exists, firstFault?, List.findSome?_isSome_iff]
  constructor
  · rintro ⟨⟨item, index⟩, member, faulty⟩
    obtain ⟨criterion, occurs, listed⟩ := mem_decodingOrder_iff.mp ⟨index, member⟩
    exact ⟨criterion, occurs, item, listed,
      exists_fault_iff.mp (Option.isSome_iff_exists.mp faulty)⟩
  · rintro ⟨criterion, occurs, item, listed, refused⟩
    obtain ⟨index, member⟩ :=
      mem_decodingOrder_iff.mpr ⟨criterion, occurs, listed⟩
    exact ⟨(item, index), member,
      Option.isSome_iff_exists.mpr (exists_fault_iff.mpr refused)⟩

end Criterion

/-! ## Compiling -/

namespace Plan

variable {schema : Schema} {paging : Paging} {query : Query}

def askedSize (paging : Paging) (query : Query) : UInt32 :=
  query.pageSize.getD paging.defaultSize

theorem fails_pageOf :
    FailsBy (if askedSize paging query = 0 then some .zeroPageSize else none)
      (pageOf paging query) := by
  by_cases zero : askedSize paging query = 0
  · rw [if_pos zero]
    exact if_pos zero
  · rw [if_neg zero]
    have paged : pageOf paging query = _ := if_neg zero
    rw [paged]
    split <;> exact ⟨_, rfl⟩

/-- A query fails on the first faulty item of its criteria, and on its page only
if there is none. -/
theorem fails_ofQuery :
    FailsBy (((Criterion.firstFault? query.criteria).map .criteria).or
        (if askedSize paging query = 0 then some .zeroPageSize else none))
      (ofQuery schema paging query) :=
  ((Criterion.fails_ofCriteria query.criteria).mapError .criteria).bind
      fun filter =>
    fails_pageOf.map
      (Plan.mk filter (sortKeys schema query.sort) · query.select query.distinct)

theorem ofQuery_eq_error_iff {error : CompileError} :
    ofQuery schema paging query = .error error ↔
      (∃ fault,
        Criterion.firstFault? query.criteria = some fault ∧
        error = .criteria fault) ∨
        Criterion.firstFault? query.criteria = none ∧ askedSize paging query = 0 ∧
          error = .zeroPageSize := by
  rw [fails_ofQuery.eq_error_iff]
  cases Criterion.firstFault? query.criteria with
  | some fault => simp [eq_comm]
  | none =>
    by_cases zero : askedSize paging query = 0 <;> simp [zero, eq_comm]

end Plan

/-- A renderer that takes every plan fails exactly on the queries without one. -/
theorem Compiler.compile_eq_error_iff {Native : Type}
    {compiler : Compiler Native} {query : Query} {target : String}
    (total : ∀ plan, ∃ native, compiler.render plan target = .ok native)
    {error : CompileError} :
    compiler.compile query target = .error error ↔
      Plan.ofQuery compiler.schema compiler.paging query = .error error := by
  cases planned : Plan.ofQuery compiler.schema compiler.paging query with
  | error other => simp [compile_of_error planned]
  | ok plan =>
    obtain ⟨native, rendered⟩ := total plan
    rw [compile_of_plan planned, rendered]
    simp [Except.map]

theorem SqlQuery.ofPlan_eq_error {relational : Relational} {schema : Schema}
    {plan : Plan} {target : String} {error : CompileError}
    (failed : ofPlan relational schema plan target = .error error) :
    ∃ name, error = .invalidField name := by
  rw [ofPlan_eq] at failed
  cases refused : Sql.Rendering.refused? relational plan.filter target with
  | some name =>
    rw [refused] at failed
    cases failed
    exact ⟨name, rfl⟩
  | none =>
    simp only [refused] at failed
    cases laidOut : (Sql.Rendering.layout relational schema plan).run
        ⟨[], [], 1 + plan.filter.crossings⟩ with
    | error other =>
      rw [laidOut] at failed
      cases failed
      exact (Sql.Rendering.blind_layout relational schema plan).refusal
        _ _ laidOut
    | ok found =>
      rw [laidOut] at failed
      cases failed

namespace Plan

/-- A query has no plan if a nested list somewhere has an item that is no
criterion, or if its page has no size. The first of the items in the order of
decoding is reported, before the page; that no operator is refused holds although
lowering group by group guards against it. Search requests and document queries
add no failures, and SQL only adds names that it refuses. -/
theorem failures_of_compile (relational : Relational) (schema : Schema)
    (paging : Paging) (query : Query) (target : String) :
    ((∃ error, ofQuery schema paging query = .error error) ↔
      (∃ criterion,
        Criterion.Occurs criterion query.criteria ∧ criterion.IsMalformed) ∨
      askedSize paging query = 0) ∧
    (∀ error, ofQuery schema paging query = .error error ↔
      (∃ fault, Criterion.firstFault? query.criteria = some fault ∧
        error = .criteria fault) ∨
      Criterion.firstFault? query.criteria = none ∧
        askedSize paging query = 0 ∧ error = .zeroPageSize) ∧
    Criterion.lowerGroups schema query.criteria =
      (Predicate.ofCriteria schema query.criteria).mapError .criteria ∧
    (∀ name, ofQuery schema paging query ≠ .error (.unsupportedOperator name)) ∧
    (∀ error,
      (SearchRequest.compiler schema paging).compile query target = .error error ↔
        ofQuery schema paging query = .error error) ∧
    (∀ error,
      (DocumentQuery.compiler schema paging).compile query target = .error error ↔
        ofQuery schema paging query = .error error) ∧
    (∀ error, ofQuery schema paging query = .error error →
      (SqlQuery.compiler relational schema paging).compile query target =
        .error error) ∧
    ∀ plan error, ofQuery schema paging query = .ok plan →
      (SqlQuery.compiler relational schema paging).compile query target =
        .error error → ∃ name, error = .invalidField name := by
  refine ⟨?_, fun error => ofQuery_eq_error_iff,
    Criterion.lowerGroups_eq query.criteria, ?_, ?_, ?_, ?_, ?_⟩
  · rw [← Criterion.exists_firstFault_iff]
    simp only [ofQuery_eq_error_iff]
    cases Criterion.firstFault? query.criteria with
    | some fault => simp
    | none => simp
  · intro name failed
    rcases ofQuery_eq_error_iff.mp failed with
      ⟨fault, -, wrong⟩ | ⟨-, -, wrong⟩ <;> cases wrong
  · exact fun error => Compiler.compile_eq_error_iff fun plan => ⟨_, rfl⟩
  · exact fun error => Compiler.compile_eq_error_iff fun plan => ⟨_, rfl⟩
  · exact fun error failed => Compiler.compile_of_error failed
  · intro plan error planned failed
    rw [Compiler.compile_of_plan planned] at failed
    cases rendered : SqlQuery.ofPlan relational schema plan target with
    | error other =>
      change (SqlQuery.ofPlan relational schema plan target).map _ = _ at failed
      rw [rendered] at failed
      cases failed
      exact SqlQuery.ofPlan_eq_error rendered
    | ok native =>
      change (SqlQuery.ofPlan relational schema plan target).map _ = _ at failed
      rw [rendered] at failed
      cases failed

end Plan

end CriteriaQuery
