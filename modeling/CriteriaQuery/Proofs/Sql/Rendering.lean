import CriteriaQuery.Sql.Statement

namespace CriteriaQuery

/-! What rendering a predicate amounts to. The condition is fixed by the
predicate and by the numbers of the next parameter and the next alias; rendering
only adds that names are looked at on the way. -/

namespace Sql

def columnName (field scope : String) : String :=
  Text.replace '.' '_' (if scope = "" then field else Path.relativeTo field scope)

def tableAlias (number : Nat) : String := "a" ++ Text.numeral number

def linkAt (relational : Relational) (path outer : String) (number : Nat) :
    Link :=
  ⟨relational.relation path, tableAlias number, outer⟩

def relationNames (relational : Relational) (path : String) : List String :=
  let relation := relational.relation path
  [relation.table, relation.localColumn, relation.foreignColumn]

end Sql

open Sql

namespace Predicate

/-! ## Parts of a rendered predicate -/

mutual

def boundValues : Predicate → List Json
  | .always => []
  | .all children => boundValuesOf children
  | .any children => boundValuesOf children
  | .not inner => boundValues inner
  | .compare _ _ value => [value]
  | .text _ mode needle => [.string (Rendering.likePattern mode needle)]
  | .present _ => []
  | .within _ inner => boundValues inner
  | .related _ => []

def boundValuesOf : List Predicate → List Json
  | [] => []
  | child :: rest => boundValues child ++ boundValuesOf rest

end

mutual

def crossings : Predicate → Nat
  | .always => 0
  | .all children => crossingsOf children
  | .any children => crossingsOf children
  | .not inner => crossings inner
  | .compare _ _ _ => 0
  | .text _ _ _ => 0
  | .present _ => 0
  | .within _ inner => 1 + crossings inner
  | .related _ => 1

def crossingsOf : List Predicate → Nat
  | [] => 0
  | child :: rest => crossings child + crossingsOf rest

end

mutual

def sqlNames (relational : Relational) (scope : String) : Predicate → List String
  | .always => []
  | .all children => sqlNamesOf relational scope children
  | .any children => sqlNamesOf relational scope children
  | .not inner => sqlNames relational scope inner
  | .compare field _ _ => [columnName field scope]
  | .text field _ _ => [columnName field scope]
  | .present field => [columnName field scope]
  | .within path inner =>
    relationNames relational path ++ sqlNames relational path inner
  | .related path => relationNames relational path

def sqlNamesOf (relational : Relational) (scope : String) :
    List Predicate → List String
  | [] => []
  | child :: rest =>
    sqlNames relational scope child ++ sqlNamesOf relational scope rest

end

mutual

/-- The condition of a predicate on the table with an alias, inside a boundary,
when `parameter` and `next` are the numbers of the next parameter and alias. -/
def rendered (relational : Relational) (table scope : String)
    (parameter next : Nat) :
    Predicate → Condition
  | .always => .always
  | .all children =>
    .all (renderedAll relational table scope parameter next children)
  | .any children =>
    .any (renderedAll relational table scope parameter next children)
  | .not inner => .not (rendered relational table scope parameter next inner)
  | .compare field comparison _ =>
    .compare ⟨table, columnName field scope⟩ comparison parameter
  | .text field _ _ => .like ⟨table, columnName field scope⟩ parameter
  | .present field => .notNull ⟨table, columnName field scope⟩
  | .within path inner =>
    .relatedWhere (linkAt relational path table next)
      (rendered relational (tableAlias next) path parameter (next + 1) inner)
  | .related path => .related (linkAt relational path table next)

def renderedAll (relational : Relational) (table scope : String)
    (parameter next : Nat) :
    List Predicate → List Condition
  | [] => []
  | child :: rest =>
    rendered relational table scope parameter next child ::
      renderedAll relational table scope (parameter + child.boundValues.length)
        (next + child.crossings) rest

end

end Predicate

namespace Sql

def Draft.extended (draft : Draft) (values : List Json) (aliases : Nat) : Draft :=
  { draft with
    parameters := draft.parameters ++ values
    nextAlias := draft.nextAlias + aliases }

@[simp] theorem Draft.parameters_extended (draft : Draft) (values : List Json)
    (aliases : Nat) :
    (draft.extended values aliases).parameters = draft.parameters ++ values :=
  rfl

@[simp] theorem Draft.nextAlias_extended (draft : Draft) (values : List Json)
    (aliases : Nat) :
    (draft.extended values aliases).nextAlias = draft.nextAlias + aliases := rfl

theorem Draft.extended_nothing (draft : Draft) : draft.extended [] 0 = draft := by
  simp [extended]

theorem Draft.extended_extended (draft : Draft) (values more : List Json)
    (aliases further : Nat) :
    (draft.extended values aliases).extended more further =
      draft.extended (values ++ more) (aliases + further) := by
  simp [extended, Nat.add_assoc]

def Draft.withParameters (draft : Draft) (values : List Json) : Draft :=
  { draft with parameters := values }

namespace Rendering

open Predicate

/-! ## Rendering a predicate -/

variable {α β : Type}

/-- The result of a step that looks at some names: the first of them that is no
identifier is refused. -/
def checked (names : List String) (result : α × Draft) :
    Except CompileError (α × Draft) :=
  match names.find? fun name => !isIdentifier name with
  | some name => .error (.invalidField name)
  | none => .ok result

theorem checked_eq_error {names : List String} {result : α × Draft}
    {error : CompileError} (failed : checked names result = .error error) :
    ∃ name, error = .invalidField name := by
  unfold checked at failed
  split at failed
  next name _ =>
    cases failed
    exact ⟨name, rfl⟩
  next => cases failed

theorem checked_eq_ok {names : List String} {result other : α × Draft}
    (passed : checked names result = .ok other) :
    (∀ name ∈ names, isIdentifier name = true) ∧ result = other := by
  unfold checked at passed
  split at passed
  next => cases passed
  next none =>
    cases passed
    exact ⟨fun name member => by
      simpa using List.find?_eq_none.mp none name member, rfl⟩

theorem run_pure (value : α) (draft : Draft) :
    (pure value : Rendering α).run draft = checked [] (value, draft) := rfl

theorem run_bind {step : Rendering α} {further : α → Rendering β}
    {draft after : Draft} {names more : List String} {value : α}
    {result : β × Draft} (first : step.run draft = checked names (value, after))
    (second : (further value).run after = checked more result) :
    (step >>= further).run draft = checked (names ++ more) result := by
  rw [StateT.run_bind, first]
  unfold checked
  rw [List.find?_append]
  cases names.find? fun name => !isIdentifier name with
  | some name => rfl
  | none => exact second

theorem exists_of_run_bind {step : Rendering α} {further : α → Rendering β}
    {draft : Draft} {result : β × Draft}
    (ran : (step >>= further).run draft = .ok result) :
    ∃ value after, step.run draft = .ok (value, after) ∧
      (further value).run after = .ok result := by
  rw [StateT.run_bind] at ran
  cases first : step.run draft with
  | error error =>
    rw [first] at ran
    cases ran
  | ok found =>
    rw [first] at ran
    exact ⟨found.1, found.2, rfl, ran⟩

theorem run_return {step : Rendering α} {draft after : Draft}
    {names : List String} {value : α} (change : α → β)
    (first : step.run draft = checked names (value, after)) :
    (do return change (← step)).run draft =
      checked names (change value, after) := by
  rw [run_bind first (run_pure (change value) after), List.append_nil]

theorem run_map {step : Rendering α} {draft after : Draft} {names : List String}
    {value : α} (change : α → β)
    (first : step.run draft = checked names (value, after)) :
    (change <$> step).run draft = checked names (change value, after) := by
  rw [map_eq_pure_bind]
  exact run_return change first

theorem run_identifier (name : String) (draft : Draft) :
    (identifier name).run draft = checked [name] ((), draft) := by
  unfold identifier checked
  cases valid : isIdentifier name <;> simp [valid] <;> rfl

theorem run_bindParameter (value : Json) (draft : Draft) :
    (bindParameter value).run draft =
      checked [] (draft.parameters.length,
        { draft with parameters := draft.parameters ++ [value] }) := rfl

theorem run_freshAlias (letter : String) (draft : Draft) :
    (freshAlias letter).run draft =
      checked [] (letter ++ Text.numeral draft.nextAlias,
        { draft with nextAlias := draft.nextAlias + 1 }) := rfl

theorem run_column (field table scope : String) (draft : Draft) :
    (column field table scope).run draft =
      checked [columnName field scope] (⟨table, columnName field scope⟩, draft) :=
  run_return (fun _ => Column.mk table (columnName field scope))
    (run_identifier (columnName field scope) draft)

theorem run_onColumn (make : Column → Nat → Condition)
    (field table scope : String) (value : Json) (draft : Draft) :
    (do
      let column ← column field table scope
      return make column (← bindParameter value)).run draft =
      checked [columnName field scope]
        (make ⟨table, columnName field scope⟩ draft.parameters.length,
          draft.extended [value] 0) := by
  rw [run_bind (run_column field table scope draft)
    (run_return (make _) (run_bindParameter value draft)), List.append_nil]
  rfl

theorem run_link (relational : Relational) (path outer letter : String)
    (draft : Draft) :
    (link relational path outer letter).run draft =
      checked (relationNames relational path)
        (⟨relational.relation path,
            letter ++ Text.numeral draft.nextAlias, outer⟩,
          draft.extended [] 1) := by
  have counted : { draft with nextAlias := draft.nextAlias + 1 } =
      draft.extended [] 1 := by
    simp [Draft.extended]
  rw [← counted]
  exact run_bind (run_identifier _ draft) <| run_bind (run_identifier _ draft) <|
    run_bind (run_identifier _ draft) <|
      run_bind (run_freshAlias letter draft) (run_pure _ _)

mutual

/-- Rendering a predicate fails on names only, and gives the rendered predicate
else. -/
theorem run_condition (relational : Relational) :
    ∀ (predicate : Predicate) (table scope : String) (draft : Draft),
      (condition relational table scope predicate).run draft =
        checked (predicate.sqlNames relational scope)
          (predicate.rendered relational table scope draft.parameters.length
            draft.nextAlias,
            draft.extended predicate.boundValues predicate.crossings)
  | .always, table, scope, draft => by
    rw [condition, run_pure, sqlNames, rendered, boundValues, crossings,
      Draft.extended_nothing]
  | .all children, table, scope, draft => by
    rw [condition, sqlNames, rendered, boundValues, crossings]
    exact run_return Condition.all
      (run_conditions relational children table scope draft)
  | .any children, table, scope, draft => by
    rw [condition, sqlNames, rendered, boundValues, crossings]
    exact run_return Condition.any
      (run_conditions relational children table scope draft)
  | .not inner, table, scope, draft => by
    rw [condition, sqlNames, rendered, boundValues, crossings]
    exact run_return Condition.not
      (run_condition relational inner table scope draft)
  | .compare field comparison value, table, scope, draft => by
    rw [condition, sqlNames, rendered, boundValues, crossings]
    exact run_onColumn (Condition.compare · comparison) field table
      scope value draft
  | .text field mode needle, table, scope, draft => by
    rw [condition, sqlNames, rendered, boundValues, crossings]
    exact run_onColumn Condition.like field table scope _ draft
  | .present field, table, scope, draft => by
    rw [condition, sqlNames, rendered, boundValues, crossings,
      Draft.extended_nothing]
    exact run_return Condition.notNull (run_column field table scope draft)
  | .within path inner, table, scope, draft => by
    rw [condition, sqlNames, rendered, boundValues, crossings]
    -- The sub-query is rendered with its alias counted, inside the boundary of
    -- the path.
    have further := run_condition relational inner (tableAlias draft.nextAlias)
      path (draft.extended [] 1)
    simp only [Draft.parameters_extended, Draft.nextAlias_extended,
      Draft.extended_extended, List.append_nil, List.nil_append] at further
    exact run_bind (run_link relational path table "a" draft)
      (run_return (Condition.relatedWhere _) further)
  | .related path, table, scope, draft => by
    rw [condition, sqlNames, rendered, boundValues, crossings]
    exact run_return Condition.related (run_link relational path table "a" draft)

theorem run_conditions (relational : Relational) :
    ∀ (children : List Predicate) (table scope : String) (draft : Draft),
      (conditions relational table scope children).run draft =
        checked (sqlNamesOf relational scope children)
          (renderedAll relational table scope draft.parameters.length
            draft.nextAlias children,
            draft.extended (boundValuesOf children) (crossingsOf children))
  | [], table, scope, draft => by
    rw [conditions, run_pure, sqlNamesOf, renderedAll, boundValuesOf, crossingsOf,
      Draft.extended_nothing]
  | child :: rest, table, scope, draft => by
    rw [conditions, sqlNamesOf, renderedAll, boundValuesOf, crossingsOf]
    -- The rest begins with the draft that the first child leaves behind.
    have others := run_conditions relational rest table scope
      (draft.extended child.boundValues child.crossings)
    simp only [Draft.parameters_extended, Draft.nextAlias_extended,
      Draft.extended_extended, List.length_append] at others
    exact run_bind (run_condition relational child table scope draft)
      (run_return (List.cons _) others)

end

/-! ## Steps that bind no value

The columns of related tables do not depend on the values of parameters. -/

/-- A step that neither looks at the values of parameters nor changes them, and
refuses nothing but names. -/
structure Blind (step : Rendering α) : Prop where
  run_withParameters : ∀ draft values, step.run (draft.withParameters values) =
    (step.run draft).map fun (result, after) =>
      (result, after.withParameters values)
  refusal : ∀ draft error, step.run draft = .error error →
    ∃ name, error = .invalidField name

theorem Blind.pure (value : α) : Blind (pure value : Rendering α) :=
  ⟨fun _ _ => rfl, nofun⟩

theorem Blind.bind {step : Rendering α} {further : α → Rendering β}
    (first : Blind step) (second : ∀ value, Blind (further value)) :
    Blind (step >>= further) := by
  constructor
  · intro draft values
    rw [StateT.run_bind, StateT.run_bind, first.run_withParameters]
    cases step.run draft with
    | error error => rfl
    | ok result => exact (second result.1).run_withParameters result.2 values
  · intro draft error failed
    rw [StateT.run_bind] at failed
    cases ran : step.run draft with
    | error refused =>
      rw [ran] at failed
      cases failed
      exact first.refusal draft error ran
    | ok result =>
      rw [ran] at failed
      exact (second result.1).refusal result.2 error failed

theorem Blind.of_get {further : Draft → Rendering α}
    (blind : ∀ draft, Blind (further draft))
    (same : ∀ draft values,
      further (draft.withParameters values) = further draft) :
    Blind (get >>= further) := by
  constructor
  · intro draft values
    change (further (draft.withParameters values)).run
      (draft.withParameters values) = _
    rw [same]
    exact (blind draft).run_withParameters draft values
  · exact fun draft error failed => (blind draft).refusal draft error failed

theorem blind_identifier (name : String) : Blind (identifier name) := by
  constructor
  · intro draft values
    unfold identifier
    split <;> rfl
  · intro draft error failed
    rw [run_identifier] at failed
    exact checked_eq_error failed

theorem blind_freshAlias (letter : String) : Blind (freshAlias letter) :=
  ⟨fun _ _ => rfl, nofun⟩

theorem blind_column (field table scope : String) :
    Blind (column field table scope) :=
  (blind_identifier _).bind fun _ => .pure _

theorem blind_link (relational : Relational) (path outer letter : String) :
    Blind (link relational path outer letter) :=
  (blind_identifier _).bind fun _ => (blind_identifier _).bind fun _ =>
    (blind_identifier _).bind fun _ =>
      (blind_freshAlias letter).bind fun _ => .pure _

theorem blind_leftJoin (relational : Relational) (path outer : String) :
    Blind (leftJoin relational path outer) := by
  -- Whether the path was joined before is read off the joins alone.
  refine Blind.of_get (fun draft => ?_) fun _ _ => rfl
  cases draft.joins.find? (·.path = path) with
  | some join => exact .pure _
  | none =>
    refine (blind_link relational path outer "j").bind fun link => ?_
    refine Blind.bind ⟨fun _ _ => rfl, nofun⟩ fun _ => .pure _

theorem blind_leftJoins (relational : Relational) (paths : List String)
    (table : String) : Blind (leftJoins relational paths table) := by
  induction paths generalizing table with
  | nil => exact .pure table
  | cons path rest induction =>
    exact (blind_leftJoin relational path table).bind fun joined =>
      induction joined

theorem blind_joinedColumn (relational : Relational) (schema : Schema)
    (field : String) : Blind (joinedColumn relational schema field) := by
  unfold joinedColumn
  cases schema.nesting? field with
  | none => exact blind_column field _ _
  | some path =>
    exact (blind_leftJoins relational path.boundaries _).bind fun table =>
      blind_column field table _

theorem blind_joinedColumns (relational : Relational) (schema : Schema)
    (fields : List String) : Blind (joinedColumns relational schema fields) := by
  induction fields with
  | nil => exact .pure []
  | cons field rest induction =>
    exact (blind_joinedColumn relational schema field).bind fun column =>
      induction.bind fun columns => .pure (column :: columns)

/-! ## Statements -/

def filterCondition (relational : Relational) (filter : Predicate) :
    Rendering (Option Condition) :=
  if filter.isAlways then pure none
  else some <$> condition relational relational.rootAlias "" filter

def renderedFilter? (relational : Relational) (filter : Predicate) :
    Option Condition :=
  if filter.isAlways then none
  else some (filter.rendered relational relational.rootAlias "" 0 1)

theorem renderedFilter?_cases (relational : Relational) (filter : Predicate) :
    filter = .always ∧ renderedFilter? relational filter = none ∨
      renderedFilter? relational filter =
        some (filter.rendered relational relational.rootAlias "" 0 1) := by
  cases filter with
  | always => exact .inl ⟨rfl, rfl⟩
  | _ => exact .inr rfl

theorem run_filterCondition (relational : Relational) (filter : Predicate) :
    (filterCondition relational filter).run .start =
      checked (filter.sqlNames relational "")
        (renderedFilter? relational filter,
          Draft.start.extended filter.boundValues filter.crossings) := by
  unfold filterCondition renderedFilter?
  cases filter with
  | always => rfl
  | _ =>
    exact run_map some (run_condition relational _ relational.rootAlias "" .start)

structure Layout where
  columns : List Column
  order : List Column
  joins : List Join

def layout (relational : Relational) (schema : Schema) (plan : Plan) :
    Rendering Layout := do
  let columns ←
    joinedColumns relational schema (plan.select.map SelectPath.source)
  let order ← joinedColumns relational schema (plan.sort.map SortKey.field)
  return ⟨columns, order, (← get).joins⟩

theorem blind_layout (relational : Relational) (schema : Schema) (plan : Plan) :
    Blind (layout relational schema plan) :=
  (blind_joinedColumns relational schema _).bind fun columns =>
    (blind_joinedColumns relational schema _).bind fun order =>
      .of_get (fun draft => .pure (Layout.mk columns order draft.joins))
        fun _ _ => rfl

def assembled (relational : Relational) (plan : Plan) (target : String)
    (condition : Option Condition) (layout : Layout) : Statement where
  table := target
  rootAlias := relational.rootAlias
  distinct := plan.distinct
  columns := layout.columns.zip (plan.select.map SelectPath.source)
  joins := layout.joins
  condition
  order := layout.order.zip (plan.sort.map SortKey.direction)
  limit := plan.page.size.toNat
  offset := plan.page.offset

theorem statement_eq (relational : Relational) (schema : Schema) (plan : Plan)
    (target : String) :
    statement relational schema plan target = (do
      identifier target
      let condition ← filterCondition relational plan.filter
      return assembled relational plan target condition
          (← layout relational schema plan)) := by
  unfold statement filterCondition
  cases plan.filter.isAlways <;> simp [layout, assembled]

def refused? (relational : Relational) (filter : Predicate) (target : String) :
    Option String :=
  (target :: filter.sqlNames relational "").find? fun name => !isIdentifier name

/-- The statement of a plan fails on a name, or its columns are laid out as if no
value were bound, and the values of the filter are its parameters. -/
theorem run_statement (relational : Relational) (schema : Schema) (plan : Plan)
    (target : String) :
    (statement relational schema plan target).run .start =
      match refused? relational plan.filter target with
      | some name => .error (.invalidField name)
      | none =>
        ((layout relational schema plan).run ⟨[], [],
            1 + plan.filter.crossings⟩).map
          fun (columns, after) =>
            (assembled relational plan target
              (renderedFilter? relational plan.filter) columns,
              after.withParameters plan.filter.boundValues) := by
  have laidOut := (blind_layout relational schema plan).run_withParameters
    ⟨[], [], 1 + plan.filter.crossings⟩ plan.filter.boundValues
  have filtered :
      (do identifier target; filterCondition relational plan.filter).run .start =
      checked ([target] ++ plan.filter.sqlNames relational "")
        (renderedFilter? relational plan.filter,
          Draft.start.extended plan.filter.boundValues plan.filter.crossings) :=
    run_bind (run_identifier target .start)
      (run_filterCondition relational plan.filter)
  have parted : statement relational schema plan target = (do
      let condition ←
        (do identifier target; filterCondition relational plan.filter)
      return assembled relational plan target condition
          (← layout relational schema plan)) := by
    rw [statement_eq, bind_assoc]
  -- The columns start from a draft that has been given nothing but values and
  -- aliases.
  rw [parted, StateT.run_bind, filtered]
  unfold checked refused?
  rw [List.singleton_append]
  split
  next name refused => rfl
  next =>
    have started : Draft.start.extended plan.filter.boundValues
        plan.filter.crossings = Draft.withParameters
          ⟨[], [], 1 + plan.filter.crossings⟩ plan.filter.boundValues := rfl
    change StateT.run
      (do return assembled relational plan target _ (← layout _ _ _)) _ = _
    rw [StateT.run_bind, started, laidOut]
    cases (layout relational schema plan).run
      ⟨[], [], 1 + plan.filter.crossings⟩ <;> rfl

end Rendering

end Sql

end CriteriaQuery
