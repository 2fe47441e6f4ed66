import CriteriaQuery.Update.Cascade
import Mathlib.Data.List.Induction

namespace CriteriaQuery

/-! The levels of a payload, each read off the leaves of its own relation. -/

namespace Keyed

variable {α : Type}

def last? (key : String) (entries : List (String × α)) : Option α :=
  (entries.reverse.find? fun entry => entry.1 == key).map Prod.snd

theorem last?_append_singleton (key name : String) (value : α)
    (entries : List (String × α)) :
    last? key (entries ++ [(name, value)]) =
      if name = key then some value else last? key entries := by
  unfold last?
  rw [List.reverse_append, List.reverse_singleton, List.singleton_append,
    List.find?_cons]
  by_cases same : name = key
  · simp [same]
  · rw [if_neg same, beq_eq_false_iff_ne.mpr same]

theorem last?_isSome_iff {key : String} {entries : List (String × α)} :
    (last? key entries).isSome = true ↔ key ∈ entries.map Prod.fst := by
  simp [last?]

theorem get?_foldl_set (key : String) (entries : List (String × α))
    (members : Keyed α) :
    get? key (entries.foldl (fun members (name, value) => set name value members)
      members) =
      (last? key entries).or (get? key members) := by
  induction entries using List.reverseRecOn with
  | nil => rfl
  | append_singleton entries entry induction =>
    rcases entry with ⟨name, value⟩
    rw [List.foldl_append, List.foldl_cons, List.foldl_nil,
      last?_append_singleton]
    by_cases same : name = key
    · rw [if_pos same, same, get?_set_self]
      rfl
    · rw [if_neg same, get?_set_of_ne (Ne.symm same), induction]

end Keyed

namespace Leaf

def relation (leaf : Leaf) : String :=
  (Path.parent? leaf.source).getD rootRelation

def field (leaf : Leaf) : String := Path.leaf leaf.source

/-- What a payload gives a field of a relation: the value of the last leaf for
it that is not null. -/
def given? (payload : Json) (relation field : String) (leaves : List Leaf) :
    Option Json :=
  (leaves.reverse.find? fun leaf =>
    leaf.relation == relation && leaf.field == field &&
      !(payload.lookup leaf.target).isNull).map
      fun leaf => payload.lookup leaf.target

theorem given?_append_singleton (payload : Json) (relation field : String)
    (leaves : List Leaf) (leaf : Leaf) :
    given? payload relation field (leaves ++ [leaf]) =
      if leaf.relation = relation ∧ leaf.field = field ∧
          (payload.lookup leaf.target).isNull = false then
        some (payload.lookup leaf.target)
      else given? payload relation field leaves := by
  unfold given?
  rw [List.reverse_append, List.reverse_singleton, List.singleton_append,
    List.find?_cons]
  by_cases hit : leaf.relation = relation ∧ leaf.field = field ∧
      (payload.lookup leaf.target).isNull = false
  · simp [hit]
  · have miss : (leaf.relation == relation && leaf.field == field &&
        !(payload.lookup leaf.target).isNull) = false := by
      rw [Bool.eq_false_iff]
      simpa [and_assoc] using hit
    rw [if_neg hit, miss]

end Leaf

namespace Level

variable {idField : String} {payload : Json}

/-! ## A level by itself -/

def ofLeaves (idField : String) (payload : Json) (relation : String)
    (leaves : List Leaf) : Level :=
  (leaves.filter fun leaf => leaf.relation = relation).foldl
    (fun level leaf => level.add idField leaf.field (payload.lookup leaf.target))
      (new relation)

theorem ofLeaves_append_singleton (relation : String) (leaves : List Leaf)
    (leaf : Leaf) :
    ofLeaves idField payload relation (leaves ++ [leaf]) =
      if leaf.relation = relation then
        (ofLeaves idField payload relation leaves).add idField leaf.field
          (payload.lookup leaf.target)
      else ofLeaves idField payload relation leaves := by
  unfold ofLeaves
  rw [List.filter_append, List.foldl_append]
  by_cases there : leaf.relation = relation
  · simp [there]
  · simp [there]

theorem add_relation (field : String) (value : Json) (level : Level) :
    (add idField field value level).relation = level.relation := by
  unfold add
  split
  · rfl
  · split <;> rfl

theorem ofLeaves_relation (relation : String) (leaves : List Leaf) :
    (ofLeaves idField payload relation leaves).relation = relation := by
  induction leaves using List.reverseRecOn with
  | nil => rfl
  | append_singleton leaves leaf induction =>
    rw [ofLeaves_append_singleton]
    split
    · rw [add_relation, induction]
    · exact induction

theorem last?_fields_add (key field : String) (value : Json) (level : Level) :
    Keyed.last? key (add idField field value level).fields =
      if value.isNull = false ∧ field ≠ idField ∧ field = key then some value
      else Keyed.last? key level.fields := by
  unfold add
  by_cases absent : value.isNull = true
  · simp [absent]
  · rw [if_neg absent]
    by_cases isId : field = idField
    · simp [isId]
    · rw [if_neg isId, Keyed.last?_append_singleton]
      simp [absent, isId]

/-- A level gives each field but the identifier what the payload gives it. -/
theorem last?_fields_ofLeaves (relation field : String) (leaves : List Leaf) :
    Keyed.last? field (ofLeaves idField payload relation leaves).fields =
      if field = idField then none
      else Leaf.given? payload relation field leaves := by
  induction leaves using List.reverseRecOn with
  | nil => simp [ofLeaves, new, Keyed.last?, Leaf.given?]
  | append_singleton leaves leaf induction =>
    rw [ofLeaves_append_singleton, Leaf.given?_append_singleton]
    by_cases there : leaf.relation = relation
    · rw [if_pos there, last?_fields_add, induction]
      by_cases isId : field = idField
      · rw [if_pos isId, if_pos isId, if_neg]
        rintro ⟨-, notId, same⟩
        exact notId (same.trans isId)
      · rw [if_neg isId, if_neg isId]
        refine if_congr ⟨?_, ?_⟩ rfl rfl
        · rintro ⟨given, -, named⟩
          exact ⟨there, named, given⟩
        · rintro ⟨-, named, given⟩
          exact ⟨given, named ▸ isId, named⟩
    · rw [if_neg there, induction]
      simp [there]

/-! ## The levels of a payload -/

/-- The levels that leaves lie in: one for the root and for every relation of a
leaf, and each of them as it is by itself. -/
structure AreLevels (idField : String) (payload : Json) (leaves : List Leaf)
    (levels : List Level) : Prop where
  distinct : (levels.map relation).Nodup
  mem_iff (relation : String) : relation ∈ levels.map Level.relation ↔
    relation = rootRelation ∨ ∃ leaf ∈ leaves, leaf.relation = relation
  eq_ofLeaves : ∀ level ∈ levels,
    level = ofLeaves idField payload level.relation leaves

theorem map_relation_change {relation : String} {update : Level → Level}
    (keeps : ∀ level, (update level).relation = level.relation)
    (levels : List Level) :
    (change relation update levels).map Level.relation =
      if relation ∈ levels.map Level.relation then levels.map Level.relation
      else levels.map Level.relation ++ [relation] := by
  induction levels with
  | nil => simp [change, keeps, new]
  | cons level rest induction =>
    unfold change
    by_cases same : level.relation = relation
    · simp [same, keeps]
    · rw [if_neg same, List.map_cons, induction]
      simp only [List.map_cons, List.mem_cons, Ne.symm same, false_or]
      split <;> rfl

theorem mem_change {relation : String} {update : Level → Level}
    {levels : List Level} (distinct : (levels.map Level.relation).Nodup)
    {level : Level} (member : level ∈ change relation update levels) :
    (level ∈ levels ∧ level.relation ≠ relation) ∨
      (∃ old ∈ levels, old.relation = relation ∧ level = update old) ∨
      (relation ∉ levels.map Level.relation ∧ level = update (new relation)) := by
  induction levels with
  | nil => exact .inr (.inr ⟨by simp, by simpa [change] using member⟩)
  | cons first rest induction =>
    rw [List.map_cons, List.nodup_cons] at distinct
    unfold change at member
    by_cases same : first.relation = relation
    · rw [if_pos same] at member
      rcases List.mem_cons.mp member with rfl | member
      · exact .inr (.inl ⟨first, List.mem_cons_self, same, rfl⟩)
      · refine .inl ⟨List.mem_cons_of_mem _ member, fun equal => distinct.1 ?_⟩
        rw [same, ← equal]
        exact List.mem_map_of_mem member
    · rw [if_neg same] at member
      rcases List.mem_cons.mp member with rfl | member
      · exact .inl ⟨List.mem_cons_self, same⟩
      · rcases induction distinct.2 member with
          ⟨found, other⟩ | ⟨old, found, there, updated⟩ | ⟨absent, updated⟩
        · exact .inl ⟨List.mem_cons_of_mem _ found, other⟩
        · exact .inr (.inl ⟨old, List.mem_cons_of_mem _ found, there, updated⟩)
        · refine .inr (.inr ⟨?_, updated⟩)
          rw [List.map_cons, List.mem_cons]
          exact not_or.mpr ⟨Ne.symm same, absent⟩

theorem AreLevels.new :
    AreLevels idField payload [] [Level.new rootRelation] where
  distinct := by simp
  mem_iff relation := by simp [Level.new]
  eq_ofLeaves level member := by
    rw [List.mem_singleton] at member
    subst member
    rfl

theorem AreLevels.addLeaf {leaves : List Leaf} {levels : List Level}
    (are : AreLevels idField payload leaves levels) (leaf : Leaf) :
    AreLevels idField payload (leaves ++ [leaf])
      (addLeaf idField payload levels leaf) := by
  have relations : (Level.addLeaf idField payload levels leaf).map
      Level.relation =
      if leaf.relation ∈ levels.map Level.relation then levels.map Level.relation
      else levels.map Level.relation ++ [leaf.relation] :=
    map_relation_change (fun level => add_relation _ _ level) levels
  constructor
  · rw [relations]
    split
    next => exact are.distinct
    next absent =>
      exact List.nodup_append.mpr ⟨are.distinct, by simp, by simpa using absent⟩
  · intro relation
    have membership : relation ∈ (Level.addLeaf idField payload levels leaf).map
        Level.relation ↔
        relation ∈ levels.map Level.relation ∨ relation = leaf.relation := by
      rw [relations]
      split
      next there =>
        refine (or_iff_left_of_imp ?_).symm
        rintro rfl
        exact there
      next => rw [List.mem_append, List.mem_singleton]
    rw [membership, are.mem_iff, or_assoc]
    simp only [List.mem_append, List.mem_singleton, or_and_right, exists_or,
      exists_eq_left, @eq_comm _ relation leaf.relation]
  · intro level member
    rw [ofLeaves_append_singleton]
    -- A level is left alone, changed, or new; a new one is named by no leaf so
    -- far.
    rcases mem_change are.distinct member with
      ⟨old, other⟩ | ⟨old, found, there, updated⟩ | ⟨absent, updated⟩
    · have elsewhere : leaf.relation ≠ level.relation :=
        fun equal => other equal.symm
      rw [if_neg elsewhere]
      exact are.eq_ofLeaves level old
    · have same : level.relation = leaf.relation := by
        rw [updated, add_relation]
        exact there
      rw [if_pos same.symm, updated, add_relation, ← are.eq_ofLeaves old found]
      rfl
    · have same : level.relation = leaf.relation := by
        rw [updated, add_relation]
        rfl
      have untold : leaves.filter (fun other => other.relation = leaf.relation) =
          [] := by
        rw [List.filter_eq_nil_iff]
        intro other told there
        rw [decide_eq_true_eq] at there
        exact absent ((are.mem_iff _).mpr (.inr ⟨other, told, there⟩))
      rw [if_pos same.symm, same, ofLeaves, untold, updated]
      rfl

theorem areLevels_ofPayload (model : Model) :
    AreLevels idField payload model.leaves (ofPayload idField model payload) := by
  -- The leaves that are done grow from the left, one for each step of the fold.
  have folded (done todo : List Leaf) (levels : List Level)
      (are : AreLevels idField payload done levels) : AreLevels idField payload
        (done ++ todo) (todo.foldl (Level.addLeaf idField payload) levels) := by
    induction todo generalizing done levels with
    | nil => simpa using are
    | cons leaf rest induction =>
      simpa using induction (done ++ [leaf]) _ (are.addLeaf leaf)
  have all : AreLevels idField payload model.leaves _ :=
    folded [] model.leaves _ .new
  have sorted := List.mergeSort_perm
    (model.leaves.foldl (Level.addLeaf idField payload)
    [Level.new rootRelation]) fun left right => left.depth ≤ right.depth
  constructor
  · exact ((sorted.map Level.relation).nodup_iff).mpr all.distinct
  · intro relation
    exact (sorted.map Level.relation).mem_iff.trans (all.mem_iff relation)
  · intro level member
    exact all.eq_ofLeaves level (sorted.mem_iff.mp member)

/-! ## Active levels -/

theorem exists_of_mem_separate {skipped : List String} {levels : List Level}
    {active : ActiveLevel} (member : active ∈ (separate skipped levels).1) :
    ∃ level ∈ levels, level.relation = active.relation ∧
      level.id = some active.id ∧ level.fields = active.fields := by
  induction levels generalizing skipped with
  | nil => cases member
  | cons level rest induction =>
    have later {skipped : List String}
        (member : active ∈ (separate skipped rest).1) :
        ∃ found ∈ level :: rest, found.relation = active.relation ∧
          found.id = some active.id ∧ found.fields = active.fields := by
      rcases induction member with ⟨found, isLevel, described⟩
      exact ⟨found, List.mem_cons_of_mem _ isLevel, described⟩
    unfold separate at member
    split at member
    next id identified =>
      split at member
      next => exact later member
      next =>
        rcases List.mem_cons.mp member with rfl | member
        · exact ⟨level, List.mem_cons_self, rfl, identified, rfl⟩
        · exact later member
    next => exact later member

theorem last?_fields_of_active {model : Model} {active : ActiveLevel}
    (member : active ∈ (separate [] (ofPayload idField model payload)).1)
    (field : String) :
    Keyed.last? field active.fields =
      if field = idField then none
      else Leaf.given? payload active.relation field model.leaves := by
  rcases exists_of_mem_separate member with ⟨level, isLevel, relation, -, fields⟩
  rw [← fields, ← relation, (areLevels_ofPayload model).eq_ofLeaves level isLevel,
    ofLeaves_relation, last?_fields_ofLeaves]

end Level

end CriteriaQuery
