import CriteriaQuery.Update.Cascade

namespace CriteriaQuery

/-! Runs of a cascade, one step of the store after the other, and the requests
that start one. -/

def ActiveLevel.written (level : ActiveLevel) : LevelWrite :=
  ⟨level.relation, level.id, level.fields.map Prod.fst⟩

namespace Cascade

section Runs

variable {store transaction : Type} [TransactionalStore store transaction]
variable {model : Model} {state : store × transaction}

theorem loadAll_cons (level : ActiveLevel) (rest : List ActiveLevel) :
    loadAll model (level :: rest) state =
      match TransactionalStore.load level.relation level.id state with
      | .error error state => .error (.storage error) state
      | .ok none state =>
        .error (.entityNotFound (relationName model level.relation)
          level.id.plainText) state
      | .ok (some entity) state =>
        match level.merge entity with
        | .error error => .error (.storage error) state
        | .ok merged =>
          match loadAll model rest state with
          | .ok others state => .ok ((level, merged) :: others) state
          | .error error state => .error error state := by
  rw [loadAll]
  cases loaded : TransactionalStore.load level.relation level.id state with
  | error error after =>
    simp [call, EStateM.adaptExcept, bind, EStateM.bind, loaded]
  | ok found after =>
    cases found with
    | none =>
      simp only [call, EStateM.adaptExcept, bind, EStateM.bind, loaded]
      rfl
    | some entity =>
      cases merging : level.merge entity with
      | error error =>
        simp only [call, EStateM.adaptExcept, bind, EStateM.bind, loaded, merging]
        rfl
      | ok merged =>
        simp only [call, EStateM.adaptExcept, bind, EStateM.bind, loaded, merging]
        cases loadAll model rest after <;> rfl

theorem saveAll_cons (level : ActiveLevel) (merged : Json)
    (rest : List (ActiveLevel × Json)) :
    saveAll ((level, merged) :: rest) state =
      match TransactionalStore.save level.relation level.id merged state with
      | .error error state => .error (.storage error) state
      | .ok () state =>
        match saveAll rest state with
        | .ok others state =>
          .ok (⟨level.relation, level.id, level.fields.map Prod.fst⟩ :: others)
            state
        | .error error state => .error error state := by
  rw [saveAll]
  cases saved : TransactionalStore.save level.relation level.id merged state with
  | error error after =>
    simp [call, EStateM.adaptExcept, bind, EStateM.bind, saved]
  | ok _ after =>
    simp only [call, EStateM.adaptExcept, bind, EStateM.bind, saved]
    cases saveAll rest after <;> rfl

theorem applyTo_eq (idField : String) (payload : Json) :
    applyTo idField model payload state =
      if ((Level.ofPayload idField model payload).head?.bind Level.id).isNone then
        .error (.missingMainId model.name) state
      else
        match loadAll model
            (Level.separate [] (Level.ofPayload idField model payload)).1
            state with
        | .error error state => .error error state
        | .ok merged state =>
          match saveAll merged state with
          | .error error state => .error error state
          | .ok written state =>
            .ok ⟨written,
              (Level.separate [] (Level.ofPayload idField model payload)).2⟩
              state := by
  unfold applyTo
  by_cases missing :
    ((Level.ofPayload idField model payload).head?.bind Level.id).isNone
  · rw [if_pos missing, if_pos missing]
    rfl
  · rw [if_neg missing, if_neg missing]
    simp only [bind, EStateM.bind]
    cases loadAll model
        (Level.separate [] (Level.ofPayload idField model payload)).1 state with
    | error error after => rfl
    | ok merged after =>
      cases saving : saveAll merged after with
      | error error last => simp only [saving]
      | ok written last =>
        simp only [saving]
        rfl

/-! ## Runs that succeed -/

theorem loadAll_cons_eq_ok {level : ActiveLevel} {rest : List ActiveLevel}
    {merged : List (ActiveLevel × Json)} {after : store × transaction}
    (ran : loadAll model (level :: rest) state = .ok merged after) :
    ∃ entity own next others,
      TransactionalStore.load level.relation level.id state =
        .ok (some entity) next ∧
      level.merge entity = .ok own ∧ loadAll model rest next = .ok others after ∧
      merged = (level, own) :: others := by
  rw [loadAll_cons] at ran
  split at ran
  next => cases ran
  next => cases ran
  next entity next loaded =>
    split at ran
    next => cases ran
    next own merging =>
      split at ran
      next others last rested =>
        cases ran
        exact ⟨entity, own, next, others, loaded, merging, rested, rfl⟩
      next => cases ran

theorem saveAll_cons_eq_ok {level : ActiveLevel} {entity : Json}
    {rest : List (ActiveLevel × Json)} {written : List LevelWrite}
    {after : store × transaction}
    (ran : saveAll ((level, entity) :: rest) state = .ok written after) :
    ∃ next others,
      TransactionalStore.save level.relation level.id entity state = .ok () next ∧
      saveAll rest next = .ok others after ∧
      written = ⟨level.relation, level.id, level.fields.map Prod.fst⟩ ::
        others := by
  rw [saveAll_cons] at ran
  split at ran
  next => cases ran
  next next saved =>
    split at ran
    next others last rested =>
      cases ran
      exact ⟨next, others, saved, rested, rfl⟩
    next => cases ran

theorem applyTo_eq_ok {idField : String} {payload : Json} {report : UpdateReport}
    {after : store × transaction}
    (ran : applyTo idField model payload state = .ok report after) :
    ∃ merged next,
      loadAll model (Level.separate [] (Level.ofPayload idField model payload)).1
        state = .ok merged next ∧
      saveAll merged next = .ok report.written after ∧
      report.skipped =
        (Level.separate [] (Level.ofPayload idField model payload)).2 := by
  rw [applyTo_eq] at ran
  split at ran
  next => cases ran
  next =>
    split at ran
    next => cases ran
    next merged next loaded =>
      split at ran
      next => cases ran
      next written last saved =>
        cases ran
        exact ⟨merged, next, loaded, saved, rfl⟩

theorem inTransaction_eq_ok {α : Type} {work : Work store transaction α}
    {start after : store} {value : α}
    (ran : inTransaction work start = .ok value after) :
    ∃ opened begun worked ready,
      TransactionalStore.begin start = .ok opened begun ∧
      work (begun, opened) = .ok value (worked, ready) ∧
      TransactionalStore.commit ready worked = .ok () after := by
  unfold inTransaction at ran
  split at ran
  next => cases ran
  next opened begun began =>
    split at ran
    next found worked ready done =>
      split at ran
      next last committed =>
        cases ran
        exact ⟨opened, begun, worked, ready, began, done, committed⟩
      next => cases ran
    next => split at ran <;> cases ran

end Runs

/-! ## Requests -/

/-- An update as it is asked for: with a payload of a given model, or with one
of the model registered under a name. -/
inductive Request where
  | typed (model : Except ModelError Model) (payload : Option Json)
  | named (registry : ModelRegistry) (name : String) (payload : Option Json)

namespace Request

def work {store transaction : Type} [TransactionalStore store transaction]
    (idField : String) :
    Request → Work store transaction UpdateReport
  | .typed model payload => apply idField model payload
  | .named registry name payload => applyNamed idField registry name payload

def target : Request → Except UpdateError (Model × Json)
  | .typed _ none => .error .nullPayload
  | .typed (.error error) (some _) => .error (.model error)
  | .typed (.ok model) (some payload) => .ok (model, payload)
  | .named registry name payload =>
    match payload.filter (!·.isNull), registry.get name with
    | none, _ => .error .nullPayload
    | some _, .error _ => .error (.notAnUpdateModel name)
    | some payload, .ok model => .ok (model, payload)

variable {store transaction : Type} [TransactionalStore store transaction]
variable {idField : String} {request : Request}

theorem work_eq :
    (request.work idField : Work store transaction UpdateReport) =
      match request.target with
      | .error error => throw error
      | .ok (model, payload) => applyTo idField model payload := by
  cases request with
  | typed model payload =>
    cases payload with
    | none => rfl
    | some payload => cases model <;> rfl
  | named registry name payload =>
    simp only [work, applyNamed, target]
    cases payload.filter (!·.isNull) with
    | none => rfl
    | some payload => cases registry.get name <;> rfl

end Request

end Cascade

end CriteriaQuery
