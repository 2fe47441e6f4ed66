import CriteriaQuery.Proofs.Store.Counting
import CriteriaQuery.Proofs.Update.Effect
import Mathlib.Data.Finset.Dedup

namespace CriteriaQuery

/-! Updates of different shapes that say the same. A model may be nested or flat
and declare its leaves in any order: the levels of an update and their effect
depend on the values that it gives to source paths. -/

/-! ## What an update says -/

def Model.assignments (model : Model) (payload : Json) : List (String × Json) :=
  model.leaves.map fun leaf => (leaf.source, payload.lookup leaf.target)

/-- Two models with their payloads give the same values to the same sources, and
no field of a level is named twice. -/
structure SameAssignments (left : Model) (leftPayload : Json) (right : Model)
    (rightPayload : Json) : Prop where
  perm : (left.assignments leftPayload).Perm (right.assignments rightPayload)
  once : (left.leaves.map fun leaf => (leaf.relation, leaf.field)).Nodup

theorem Leaf.given?_eq_some_iff {payload : Json} {relation field : String}
    {leaves : List Leaf} {value : Json}
    (once : (leaves.map fun leaf => (leaf.relation, leaf.field)).Nodup) :
    given? payload relation field leaves = some value ↔
      ∃ leaf ∈ leaves, leaf.relation = relation ∧ leaf.field = field ∧
        payload.lookup leaf.target = value ∧ value.isNull = false := by
  unfold given?
  constructor
  · intro given
    rcases Option.map_eq_some_iff.mp given with ⟨leaf, found, rfl⟩
    have names := List.find?_some found
    simp only [Bool.and_eq_true, beq_iff_eq, Bool.not_eq_true'] at names
    have member := List.mem_reverse.mp (List.mem_of_find?_eq_some found)
    exact ⟨leaf, member, names.1.1, names.1.2, rfl, names.2⟩
  · rintro ⟨leaf, member, rfl, rfl, rfl, given⟩
    cases found : leaves.reverse.find? fun other =>
      other.relation == leaf.relation &&
        other.field == leaf.field && !(payload.lookup other.target).isNull with
    | none =>
      have missed :=
        List.find?_eq_none.mp found leaf (List.mem_reverse.mpr member)
      simp [given] at missed
    | some other =>
      have names := List.find?_some found
      simp only [Bool.and_eq_true, beq_iff_eq] at names
      have inLeaves := List.mem_reverse.mp (List.mem_of_find?_eq_some found)
      have same : other = leaf := List.inj_on_of_nodup_map once inLeaves member
        (Prod.ext names.1.1 names.1.2)
      rw [same]
      rfl

theorem Leaf.nodup_givenFields {payload : Json} {idField relation : String}
    {leaves : List Leaf}
    (once : (leaves.map fun leaf => (leaf.relation, leaf.field)).Nodup) :
    ((givenFields idField payload relation leaves).map Prod.fst).Nodup := by
  rw [givenFields, List.map_map]
  generalize chosen : leaves.filter (fun leaf => leaf.relation == relation &&
    leaf.field != idField && !(payload.lookup leaf.target).isNull) = there
  have onceThere : (there.map fun leaf => (leaf.relation, leaf.field)).Nodup := by
    rw [← chosen]
    exact once.sublist (List.filter_sublist.map _)
  have split : (there.map fun leaf => (leaf.relation, leaf.field)) =
      (there.map Leaf.field).map fun field => (relation, field) := by
    rw [List.map_map]
    apply List.map_congr_left
    intro leaf member
    rw [← chosen, List.mem_filter] at member
    simp only [Bool.and_eq_true, beq_iff_eq] at member
    rw [member.2.1.1]
    rfl
  rw [split] at onceThere
  exact onceThere.of_map

namespace SameAssignments

variable {left right : Model} {leftPayload rightPayload : Json}
  {idField relation field : String}

theorem symm (agree : SameAssignments left leftPayload right rightPayload) :
    SameAssignments right rightPayload left leftPayload where
  perm := agree.perm.symm
  once := by
    -- Relations and fields are read off the sources.
    have sources (model : Model) (payload : Json) :
        (model.leaves.map fun leaf => (leaf.relation, leaf.field)) =
          (model.assignments payload).map fun pair =>
            ((Path.parent? pair.1).getD rootRelation, Path.leaf pair.1) := by
      rw [Model.assignments, List.map_map]
      rfl
    have once := agree.once
    rw [sources left leftPayload] at once
    rw [sources right rightPayload]
    exact ((agree.perm.map _).nodup_iff).mp once

theorem exists_leaf (agree : SameAssignments left leftPayload right rightPayload)
    {leaf : Leaf} (member : leaf ∈ left.leaves) :
    ∃ other ∈ right.leaves, other.relation = leaf.relation ∧
      other.field = leaf.field ∧
      rightPayload.lookup other.target = leftPayload.lookup leaf.target := by
  have listed : (leaf.source,
      leftPayload.lookup leaf.target) ∈ right.assignments rightPayload :=
    agree.perm.mem_iff.mp (List.mem_map_of_mem member)
  rcases List.mem_map.mp listed with ⟨other, found, equal⟩
  have source : other.source = leaf.source := congrArg Prod.fst equal
  refine ⟨other, found, ?_, ?_, congrArg Prod.snd equal⟩
  · rw [Leaf.relation, source]
    rfl
  · rw [Leaf.field, source]
    rfl

theorem hasLevel (agree : SameAssignments left leftPayload right rightPayload)
    (has : left.HasLevel relation) : right.HasLevel relation := by
  rcases has with isRoot | ⟨leaf, member, there⟩
  · exact .inl isRoot
  · rcases agree.exists_leaf member with ⟨other, found, sameRelation, -, -⟩
    exact .inr ⟨other, found, sameRelation.trans there⟩

theorem given?_of_given?
    (agree : SameAssignments left leftPayload right rightPayload) {value : Json}
    (given : Leaf.given? leftPayload relation field left.leaves = some value) :
    Leaf.given? rightPayload relation field right.leaves = some value := by
  rcases (Leaf.given?_eq_some_iff agree.once).mp given with
    ⟨leaf, member, there, named, given, some⟩
  rcases agree.exists_leaf member with ⟨other, found, sameRelation,
    sameField, sameValue⟩
  rw [Leaf.given?_eq_some_iff agree.symm.once]
  exact ⟨other, found, sameRelation.trans there, sameField.trans named,
    sameValue.trans given, some⟩

theorem given?_eq (agree : SameAssignments left leftPayload right rightPayload)
    (relation field : String) :
    Leaf.given? leftPayload relation field left.leaves =
      Leaf.given? rightPayload relation field right.leaves := by
  apply Option.ext
  intro value
  exact ⟨agree.given?_of_given?, agree.symm.given?_of_given?⟩

theorem levelId?_eq (agree : SameAssignments left leftPayload right rightPayload)
    (idField relation : String) :
    left.levelId? idField leftPayload relation =
      right.levelId? idField rightPayload relation :=
  agree.given?_eq relation idField

theorem isActive (agree : SameAssignments left leftPayload right rightPayload)
    (active : left.IsActive idField leftPayload relation) :
    right.IsActive idField rightPayload relation where
  hasLevel := agree.hasLevel active.hasLevel
  identified := by
    rw [← agree.levelId?_eq]
    exact active.identified
  above above has under := by
    rw [← agree.levelId?_eq]
    exact active.above above (agree.symm.hasLevel has) under

theorem givenFields_perm
    (agree : SameAssignments left leftPayload right rightPayload)
    (idField relation : String) :
    (Leaf.givenFields idField leftPayload relation left.leaves).Perm
      (Leaf.givenFields idField rightPayload relation right.leaves) := by
  have sources (model : Model) (payload : Json) :
      Leaf.givenFields idField payload relation model.leaves =
        ((model.assignments payload).filter fun pair =>
          (Path.parent? pair.1).getD rootRelation == relation &&
            Path.leaf pair.1 != idField &&
            !pair.2.isNull).map fun pair => (Path.leaf pair.1, pair.2) := by
    rw [Model.assignments, List.filter_map, List.map_map]
    rfl
  rw [sources, sources]
  exact (agree.perm.filter _).map _

theorem exists_active
    (agree : SameAssignments left leftPayload right rightPayload)
    (root : (left.levelId? idField leftPayload rootRelation).isSome = true)
    {level : ActiveLevel}
    (member : level ∈ Level.activeOf idField leftPayload left) :
    ∃ other ∈ Level.activeOf idField rightPayload right,
      other.relation = level.relation ∧
      other.id = level.id ∧ level.fields.Perm other.fields ∧
      (level.fields.map Prod.fst).Nodup := by
  rcases (Level.mem_activeOf_iff root).mp member with ⟨active, identified, fields⟩
  have rightRoot := root
  rw [agree.levelId?_eq] at rightRoot
  refine ⟨⟨level.relation, level.id,
    Leaf.givenFields idField rightPayload level.relation right.leaves⟩, ?_,
    rfl, rfl, ?_, ?_⟩
  · rw [Level.mem_activeOf_iff rightRoot]
    refine ⟨agree.isActive active, ?_, rfl⟩
    rw [← agree.levelId?_eq]
    exact identified
  · rw [fields]
    exact agree.givenFields_perm idField level.relation
  · rw [fields]
    exact Leaf.nodup_givenFields agree.once

end SameAssignments

theorem Level.nodup_relations_activeOf {idField : String} {payload : Json}
    {model : Model} :
    ((activeOf idField payload model).map ActiveLevel.relation).Nodup :=
  (List.nodup_append.mp nodup_activeOf_append_skippedOf).1

/-! ## Payloads that say nothing -/

theorem Json.lookup_null (path : String) : lookup .null path = .null := by
  unfold lookup
  cases Path.segments path <;> rfl

theorem Model.levelId?_null (model : Model) (idField relation : String) :
    model.levelId? idField .null relation = none := by
  have missed : model.leaves.reverse.find?
      (fun leaf => leaf.relation == relation &&
      leaf.field == idField && !(Json.lookup .null leaf.target).isNull) =
        none := by
    rw [List.find?_eq_none]
    intro leaf _
    rw [Json.lookup_null]
    simp [Json.isNull]
  rw [levelId?, Leaf.given?, missed]
  rfl

/-! ## Reports and entities, apart from the order of fields -/

def LevelWrite.content (write : LevelWrite) : String × Json × Finset String :=
  (write.relation, write.id, write.fields.toFinset)

structure UpdateReport.SameLevels (report other : UpdateReport) : Prop where
  written : (report.written.map LevelWrite.content).Perm
    (other.written.map LevelWrite.content)
  skipped : report.skipped.Perm other.skipped

theorem ActiveLevel.merge_eq_of_perm {level other : ActiveLevel}
    (same : level.fields.Perm other.fields)
    (once : (level.fields.map Prod.fst).Nodup) (members : Members) :
    level.merge (.object members) = other.merge (.object members) := by
  dsimp only [merge]
  rw [Keyed.foldl_set_perm same once]

namespace Cascade

open CountingStore

variable {start : CountingStore} {model : Model} {idField : String}
  {payload : Json}
variable {request : Request}

/-! ## Successful cascades -/

structure Merges (idField : String) (payload : Json) (model : Model)
    (start : CountingStore) (merged : List (ActiveLevel × Json)) : Prop where
  levels : merged.map Prod.fst = Level.activeOf idField payload model
  entities : ∀ entry ∈ merged, ∃ members,
    start.get? entry.1.relation entry.1.id = some (.object members) ∧
      entry.1.merge (.object members) = .ok entry.2

def updated (start : CountingStore) (merged : List (ActiveLevel × Json)) :
    CountingStore :=
  ((start.afterBegin.afterLoads merged.length).afterSaves
    merged.length).afterCommit
    (merged.map staged)

theorem loaded_of_loadAll {levels : List ActiveLevel}
    {merged : List (ActiveLevel × Json)} {after : CountingStore × Transaction}
    (ran : loadAll model levels (start, ([] : Transaction)) = .ok merged after) :
    after = (start.afterLoads merged.length, []) ∧ merged.map Prod.fst = levels ∧
      ∀ entry ∈ merged, ∃ members,
        start.get? entry.1.relation entry.1.id = some (.object members) ∧
          entry.1.merge (.object members) = .ok entry.2 := by
  induction levels generalizing start merged with
  | nil =>
    cases ran
    exact ⟨rfl, rfl, by simp⟩
  | cons level rest induction =>
    rcases loadAll_cons_eq_ok ran with ⟨entity, own, next, others, loaded,
      merging, rested, rfl⟩
    rw [load_eq] at loaded
    injection loaded with found sameState
    subst sameState
    rcases induction rested with ⟨rfl, levels, merges⟩
    refine ⟨?_, by rw [List.map_cons, levels], ?_⟩
    · rw [afterLoads_afterLoads, List.length_cons, Nat.add_comm]
    · intro entry member
      rcases List.mem_cons.mp member with rfl | member
      · cases entity with
        | object members => exact ⟨members, found, merging⟩
        | _ => cases merging
      · exact merges entry member

theorem saved_of_saveAll {merged : List (ActiveLevel × Json)}
    {writes : Transaction} {written : List LevelWrite}
    {after : CountingStore × Transaction}
    (ran : saveAll merged (start, writes) = .ok written after) :
    after = (start.afterSaves merged.length, writes ++ merged.map staged) ∧
      written = (merged.map Prod.fst).map ActiveLevel.written := by
  induction merged generalizing start writes written with
  | nil =>
    cases ran
    exact ⟨by rw [List.map_nil, List.append_nil]; rfl, rfl⟩
  | cons entry rest induction =>
    rcases saveAll_cons_eq_ok ran with ⟨next, others, saved, rested, rfl⟩
    have accepted : start.refusing ≠ some entry.1.relation := by
      intro refused
      rw [save_refused refused] at saved
      cases saved
    rw [save_eq accepted] at saved
    cases saved
    rcases induction rested with ⟨rfl, rfl⟩
    refine ⟨?_, rfl⟩
    rw [afterSaves_afterSaves, List.length_cons, Nat.add_comm, List.map_cons,
      List.append_assoc]
    rfl

theorem updated_of_ok {report : UpdateReport} {after : CountingStore}
    (accepted : request.target = .ok (model, payload))
    (ran : inTransaction (request.work idField) start = .ok report after) :
    (model.levelId? idField payload rootRelation).isSome = true ∧
      report = reportOf idField payload model ∧
      ∃ merged, Merges idField payload model start merged ∧
      after = updated start merged := by
  rcases inTransaction_eq_ok ran with ⟨opened, begun, worked, ready, began,
    done, committed⟩
  rw [begin_eq] at began
  injection began with sameOpened sameBegun
  subst sameOpened sameBegun
  rw [Request.work_eq, accepted] at done
  dsimp only at done
  rcases applyTo_eq_ok done with ⟨merged, next, loaded, saved, skipped⟩
  rcases loaded_of_loadAll loaded with ⟨rfl, levels, merges⟩
  rcases saved_of_saveAll saved with ⟨same, written⟩
  injection same with sameWorked sameReady
  subst sameWorked sameReady
  rw [commit_eq] at committed
  injection committed with _ sameAfter
  refine ⟨?_, ?_, merged, ⟨levels, merges⟩, sameAfter.symm⟩
  · rw [applyTo_eq, Level.id_head?_ofPayload] at done
    cases identified : model.levelId? idField payload rootRelation with
    | none =>
      rw [identified] at done
      cases done
    | some id => rfl
  · rw [levels] at written
    rcases report with ⟨_, _⟩
    subst written skipped
    rfl

theorem run_of_stored (accepted : request.target = .ok (model, payload))
    (willing : start.refusing = none)
    (root : (model.levelId? idField payload rootRelation).isSome = true)
    (stored : ∀ level ∈ Level.activeOf idField payload model, ∃ members,
      start.get? level.relation level.id = some (.object members)) :
    ∃ report after, inTransaction (request.work idField) start =
      .ok report after := by
  have willingThen : start.afterBegin.refusing = none := willing
  have storedThen : ∀ level ∈ Level.activeOf idField payload model, ∃ members,
      start.afterBegin.get? level.relation level.id =
        some (.object members) := stored
  rcases applyTo_counting root willingThen storedThen with ⟨merged, saved, ran, -⟩
  refine ⟨reportOf idField payload model,
    saved.afterCommit (merged.map staged), ?_⟩
  rw [inTransaction, begin_eq]
  simp only [Request.work_eq, accepted, ran, commit_eq]

/-! ## Requests that say the same -/

inductive Request.Asks (model : Model) (payload : Json) : Request → Prop where
  | typed : Asks model payload (.typed (.ok model) (some payload))
  | named {registry : ModelRegistry} {name : String}
    (registered : registry.get name = .ok model) :
    Asks model payload (.named registry name (some payload))

theorem Request.Asks.target_eq (asks : request.Asks model payload) :
    request.target = .ok (model, payload) ∨
      payload = .null ∧ request.target = .error .nullPayload := by
  cases asks with
  | typed => exact .inl rfl
  | named registered =>
    dsimp only [target]
    cases null : payload.isNull with
    | true =>
      have isNull : payload = .null := by
        cases payload <;> first | rfl | cases null
      exact .inr ⟨isNull, by rw [Option.filter_some, null]; rfl⟩
    | false => exact .inl (by rw [Option.filter_some, null, registered]; rfl)

theorem Request.Asks.accepted_of_root (asks : request.Asks model payload)
    (root : (model.levelId? idField payload rootRelation).isSome = true) :
    request.target = .ok (model, payload) := by
  rcases asks.target_eq with accepted | ⟨rfl, -⟩
  · exact accepted
  · rw [Model.levelId?_null] at root
    cases root

theorem Request.Asks.accepted_of_ok (asks : request.Asks model payload)
    {report : UpdateReport} {after : CountingStore}
    (ran : inTransaction (request.work idField) start = .ok report after) :
    request.target = .ok (model, payload) := by
  rcases asks.target_eq with accepted | ⟨-, refused⟩
  · exact accepted
  · rcases inTransaction_eq_ok ran with ⟨opened, begun, worked, ready, -, done, -⟩
    rw [Request.work_eq, refused] at done
    cases done

section SameAssignments

variable {left right : Model} {leftPayload rightPayload : Json}
  {first second : Request}
variable {merged others : List (ActiveLevel × Json)}

theorem exists_run (agree : SameAssignments left leftPayload right rightPayload)
    (asksFirst : first.Asks left leftPayload)
    (asksSecond : second.Asks right rightPayload)
    (willing : start.refusing = none)
    (ran : ∃ report after,
      inTransaction (first.work idField) start = .ok report after) :
    ∃ report after, inTransaction (second.work idField) start =
      .ok report after := by
  rcases ran with ⟨report, after, ran⟩
  rcases updated_of_ok (asksFirst.accepted_of_ok ran) ran with
    ⟨root, -, merged, merges, -⟩
  rw [agree.levelId?_eq] at root
  apply run_of_stored (asksSecond.accepted_of_root root) willing root
  intro level member
  rcases agree.symm.exists_active root member with
    ⟨other, found, sameRelation, sameId, -, -⟩
  rw [← merges.levels] at found
  rcases List.mem_map.mp found with ⟨entry, inMerged, rfl⟩
  rcases merges.entities entry inMerged with ⟨members, stored, -⟩
  rw [← sameRelation, ← sameId]
  exact ⟨members, stored⟩

theorem nodup_staged (merges : Merges idField payload model start merged) :
    ((merged.map staged).map Write.relation).Nodup := by
  have relations : (merged.map staged).map Write.relation =
      (Level.activeOf idField payload model).map ActiveLevel.relation := by
    rw [← merges.levels, List.map_map, List.map_map]
    rfl
  rw [relations]
  exact Level.nodup_relations_activeOf

theorem mem_staged (agree : SameAssignments left leftPayload right rightPayload)
    (root : (left.levelId? idField leftPayload rootRelation).isSome = true)
    (merges : Merges idField leftPayload left start merged)
    (otherMerges : Merges idField rightPayload right start others) {write : Write}
    (member : write ∈ merged.map staged) : write ∈ others.map staged := by
  rcases List.mem_map.mp member with ⟨entry, inMerged, rfl⟩
  have active : entry.1 ∈ Level.activeOf idField leftPayload left := by
    rw [← merges.levels]
    exact List.mem_map_of_mem inMerged
  rcases agree.exists_active root active with
    ⟨level, found, sameRelation, sameId, sameFields, once⟩
  rw [← otherMerges.levels] at found
  rcases List.mem_map.mp found with ⟨other, inOthers, rfl⟩
  rcases merges.entities entry inMerged with ⟨members, stored, merging⟩
  rcases otherMerges.entities other inOthers with
    ⟨otherMembers, otherStored, otherMerging⟩
  -- Both merge their fields into the one entity that is stored there.
  rw [sameRelation, sameId, stored] at otherStored
  cases otherStored
  rw [ActiveLevel.merge_eq_of_perm sameFields once, otherMerging] at merging
  refine List.mem_map.mpr ⟨other, inOthers, ?_⟩
  unfold staged
  rw [sameRelation, sameId, Except.ok.inj merging]

theorem staged_perm (agree : SameAssignments left leftPayload right rightPayload)
    (root : (left.levelId? idField leftPayload rootRelation).isSome = true)
    (merges : Merges idField leftPayload left start merged)
    (otherMerges : Merges idField rightPayload right start others) :
    (merged.map staged).Perm (others.map staged) := by
  have otherRoot := root
  rw [agree.levelId?_eq] at otherRoot
  -- Levels are written once each, so the writes are the same as soon as none is
  -- missing.
  rw [List.perm_ext_iff_of_nodup (nodup_staged merges).of_map
    (nodup_staged otherMerges).of_map]
  intro write
  exact ⟨mem_staged agree root merges otherMerges,
    mem_staged agree.symm otherRoot otherMerges merges⟩

theorem updated_eq (agree : SameAssignments left leftPayload right rightPayload)
    (root : (left.levelId? idField leftPayload rootRelation).isSome = true)
    (merges : Merges idField leftPayload left start merged)
    (otherMerges : Merges idField rightPayload right start others) :
    updated start merged = updated start others := by
  have same := staged_perm agree root merges otherMerges
  have sameLength : merged.length = others.length := by
    rw [← List.length_map staged, same.length_eq, List.length_map]
  unfold updated
  rw [sameLength]
  exact afterCommit_congr (apply_perm same (nodup_staged merges) _)

theorem mem_contents
    (agree : SameAssignments left leftPayload right rightPayload)
    (root : (left.levelId? idField leftPayload rootRelation).isSome = true)
    {content : String × Json × Finset String}
    (member : content ∈ (reportOf idField leftPayload left).written.map
      LevelWrite.content) :
    content ∈ (reportOf idField rightPayload right).written.map
      LevelWrite.content := by
  rw [reportOf, List.map_map, List.mem_map] at member ⊢
  rcases member with ⟨level, active, rfl⟩
  rcases agree.exists_active root active with
    ⟨other, found, sameRelation, sameId, sameFields, -⟩
  refine ⟨other, found, Prod.ext sameRelation (Prod.ext sameId ?_)⟩
  exact (List.toFinset_eq_of_perm _ _ (sameFields.map Prod.fst)).symm

theorem nodup_contents (idField : String) (payload : Json) (model : Model) :
    ((reportOf idField payload model).written.map LevelWrite.content).Nodup := by
  have relations :
      ((reportOf idField payload model).written.map LevelWrite.content).map
        Prod.fst =
        (Level.activeOf idField payload model).map ActiveLevel.relation := by
    rw [reportOf, List.map_map, List.map_map]
    rfl
  apply List.Nodup.of_map Prod.fst
  rw [relations]
  exact Level.nodup_relations_activeOf

theorem sameLevels (agree : SameAssignments left leftPayload right rightPayload)
    (root : (left.levelId? idField leftPayload rootRelation).isSome = true) :
    (reportOf idField leftPayload left).SameLevels
      (reportOf idField rightPayload right) := by
  have otherRoot := root
  rw [agree.levelId?_eq] at otherRoot
  constructor
  · rw [List.perm_ext_iff_of_nodup (nodup_contents ..) (nodup_contents ..)]
    intro content
    exact ⟨mem_contents agree root, mem_contents agree.symm otherRoot⟩
  · have once (payload : Json) (model : Model) :
        (Level.skippedOf idField payload model).Nodup :=
      (List.nodup_append.mp Level.nodup_activeOf_append_skippedOf).2.1
    rw [reportOf, reportOf, List.perm_ext_iff_of_nodup (once ..) (once ..)]
    intro relation
    rw [Level.mem_skippedOf_iff root, Level.mem_skippedOf_iff otherRoot]
    exact and_congr ⟨agree.hasLevel, agree.symm.hasLevel⟩
      (not_congr ⟨agree.isActive, agree.symm.isActive⟩)

/-- Updates that give the same values to the same sources have the same effect,
whatever the shapes of their models. -/
theorem Request.same_effect_of_sameAssignments
    (agree : SameAssignments left leftPayload right rightPayload)
    (asksFirst : first.Asks left leftPayload)
    (asksSecond : second.Asks right rightPayload)
    (willing : start.refusing = none) :
    ((∃ report after,
        inTransaction (first.work idField) start = .ok report after) ↔
      ∃ report after, inTransaction (second.work idField) start =
        .ok report after) ∧
    ∀ report after other otherAfter,
      inTransaction (first.work idField) start = .ok report after →
      inTransaction (second.work idField) start = .ok other otherAfter →
        after = otherAfter ∧ report.SameLevels other := by
  refine ⟨⟨exists_run agree asksFirst asksSecond willing,
    exists_run agree.symm asksSecond asksFirst willing⟩, ?_⟩
  intro report after other otherAfter ran otherRan
  rcases updated_of_ok (asksFirst.accepted_of_ok ran) ran with
    ⟨root, rfl, merged, merges, rfl⟩
  rcases updated_of_ok (asksSecond.accepted_of_ok otherRan) otherRan with
    ⟨-, rfl, others, otherMerges, rfl⟩
  exact ⟨updated_eq agree root merges otherMerges, sameLevels agree root⟩

end SameAssignments

/-! ## A nested model and a flat one -/

def nestedUpdate : Model :=
  ⟨"NestedUserUpdate", .record, [.leaf "id" "id" .any, .leaf "name" "name" .any,
    .submodel "area" "area" .record [.leaf "id" "id" .any,
      .leaf "name" "name" .any]]⟩

def nestedUser : Json :=
  .object [("area", .object [("id", .string "7"), ("name", .string "south")]),
    ("id", .string "1"), ("name", .string "new")]

def flatUpdate : Model :=
  ⟨"FlatUserUpdate", .record,
    [.leaf "areaId" "area.id" .any, .leaf "areaName" "area.name" .any,
    .leaf "id" "id" .any, .leaf "name" "name" .any]⟩

def flatUser : Json :=
  .object [("areaId", .string "7"), ("areaName", .string "south"),
    ("id", .string "1"), ("name", .string "new")]

theorem nested_and_flat_agree :
    SameAssignments nestedUpdate nestedUser flatUpdate flatUser := by
  have nestedLeaves : nestedUpdate.leaves =
      [⟨"id", "id", .any⟩, ⟨"name", "name", .any⟩, ⟨"area.id", "area.id", .any⟩,
        ⟨"area.name", "area.name", .any⟩] := by decide +kernel
  have flatLeaves : flatUpdate.leaves = [⟨"area.id", "areaId", .any⟩,
      ⟨"area.name", "areaName", .any⟩, ⟨"id", "id", .any⟩,
      ⟨"name", "name", .any⟩] := by
    decide +kernel
  have areaId : Path.segments "area.id" = ["area", "id"] := by decide +kernel
  have areaName : Path.segments "area.name" = ["area", "name"] := by
    decide +kernel
  have nested : nestedUpdate.assignments nestedUser =
      [("id", .string "1"), ("name", .string "new")] ++
        [("area.id", .string "7"), ("area.name", .string "south")] := by
    simp [Model.assignments, nestedLeaves, nestedUser, Json.lookup, Json.get?,
      Keyed.get?, areaId, areaName, Json.follow, Json.overItems]
  have flat : flatUpdate.assignments flatUser =
      [("area.id", .string "7"), ("area.name", .string "south")] ++
        [("id", .string "1"), ("name", .string "new")] := by
    simp [Model.assignments, flatLeaves, flatUser, Json.lookup,
      Json.get?, Keyed.get?]
  refine ⟨?_, by decide +kernel⟩
  rw [nested, flat]
  exact List.perm_append_comm

theorem same_effect_of_nested_and_flat : ∃ report after other,
    inTransaction
      (Request.work "id" (.typed (.ok nestedUpdate) (some nestedUser))) users =
      .ok report after ∧
    inTransaction (Request.work "id" (.typed (.ok flatUpdate) (some flatUser)))
      users = .ok other after ∧
    report.SameLevels other := by
  have root : (flatUpdate.levelId? "id" flatUser rootRelation).isSome = true :=
    rfl
  have rootId : flatUpdate.levelId? "id" flatUser "" = some (.string "1") := rfl
  have areaId : flatUpdate.levelId? "id" flatUser "area" =
    some (.string "7") := rfl
  have relations : rootRelation :: flatUpdate.leaves.map Leaf.relation =
      ["", "area", "area", "", ""] := by decide +kernel
  have stored : ∀ level ∈ Level.activeOf "id" flatUser flatUpdate, ∃ members,
      users.get? level.relation level.id = some (.object members) := by
    rintro ⟨relation, id, fields⟩ member
    rcases (Level.mem_activeOf_iff root).mp member with ⟨active, identified, -⟩
    have has := active.hasLevel
    rw [Model.hasLevel_iff_mem, relations] at has
    have places : relation = "" ∨ relation = "area" := by
      revert has
      simp only [List.mem_cons, List.not_mem_nil]
      tauto
    rcases places with rfl | rfl
    · cases rootId.symm.trans identified
      exact ⟨_, rfl⟩
    · cases areaId.symm.trans identified
      exact ⟨_, rfl⟩
  have asksNested : Request.Asks nestedUpdate nestedUser
    (.typed (.ok nestedUpdate) (some nestedUser)) := .typed
  have asksFlat : Request.Asks flatUpdate flatUser
    (.typed (.ok flatUpdate) (some flatUser)) := .typed
  have willing : users.refusing = none := rfl
  rcases Request.same_effect_of_sameAssignments nested_and_flat_agree asksNested
    asksFlat willing
    with ⟨succeed, same⟩
  rcases run_of_stored (asksFlat.accepted_of_root root) willing root stored with
    ⟨other, otherAfter, otherRan⟩
  rcases succeed.mpr ⟨other, otherAfter, otherRan⟩ with ⟨report, after, ran⟩
  rcases same report after other otherAfter ran otherRan with ⟨rfl, sameLevels⟩
  exact ⟨report, after, other, ran, otherRan, sameLevels⟩

end Cascade

end CriteriaQuery
