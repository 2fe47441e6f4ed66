import CriteriaQuery.Proofs.Path.Prefix
import CriteriaQuery.Proofs.Update.Levels

namespace CriteriaQuery

/-! Which levels of a payload are written and which are skipped. The levels are
taken by their depth, so that everything above a level has been told apart
before it. -/

namespace Leaf

def givenFields (idField : String) (payload : Json) (relation : String)
    (leaves : List Leaf) : List (String × Json) :=
  (leaves.filter fun leaf => leaf.relation == relation && leaf.field != idField &&
    !(payload.lookup leaf.target).isNull).map fun leaf =>
      (leaf.field, payload.lookup leaf.target)

end Leaf

namespace Model

def HasLevel (model : Model) (relation : String) : Prop :=
  relation = rootRelation ∨ ∃ leaf ∈ model.leaves, leaf.relation = relation

def levelId? (model : Model) (idField : String) (payload : Json)
    (relation : String) : Option Json :=
  Leaf.given? payload relation idField model.leaves

/-- A level with an identifier that is under no level without one. -/
structure IsActive (model : Model) (idField : String) (payload : Json)
    (relation : String) :
    Prop where
  hasLevel : model.HasLevel relation
  identified : (model.levelId? idField payload relation).isSome = true
  above (above : String) : model.HasLevel above → Path.Extends relation above →
    (model.levelId? idField payload above).isSome = true

section Decidability

variable {model : Model} {idField : String} {payload : Json} {relation : String}

theorem hasLevel_iff_mem :
    model.HasLevel relation ↔
    relation ∈ rootRelation :: model.leaves.map Leaf.relation := by
  rw [HasLevel, List.mem_cons, List.mem_map]

instance : Decidable (model.HasLevel relation) :=
  decidable_of_iff _ hasLevel_iff_mem.symm

theorem isActive_iff_levels : model.IsActive idField payload relation ↔
    model.HasLevel relation ∧
      (model.levelId? idField payload relation).isSome = true ∧
        ∀ above ∈ rootRelation :: model.leaves.map Leaf.relation,
        Path.Extends relation above →
        (model.levelId? idField payload above).isSome = true := by
  constructor
  · intro active
    refine ⟨active.hasLevel, active.identified, fun above member under => ?_⟩
    exact active.above above (hasLevel_iff_mem.mpr member) under
  · rintro ⟨has, identified, above⟩
    exact ⟨has, identified, fun higher level under =>
      above higher (hasLevel_iff_mem.mp level) under⟩

instance : Decidable (model.IsActive idField payload relation) :=
  decidable_of_iff _ isActive_iff_levels.symm

end Decidability

end Model

namespace Level

variable {idField : String} {payload : Json}

theorem id_add (field : String) (value : Json) (level : Level) :
    (add idField field value level).id =
      if field = idField ∧ value.isNull = false then some value
      else level.id := by
  unfold add
  by_cases absent : value.isNull = true
  · simp [absent]
  · by_cases isId : field = idField <;> simp [absent, isId]

theorem fields_add (field : String) (value : Json) (level : Level) :
    (add idField field value level).fields =
      if field ≠ idField ∧ value.isNull = false then
        level.fields ++ [(field, value)]
      else level.fields := by
  unfold add
  by_cases absent : value.isNull = true
  · simp [absent]
  · by_cases isId : field = idField <;> simp [absent, isId]

theorem id_ofLeaves (relation : String) (leaves : List Leaf) :
    (ofLeaves idField payload relation leaves).id =
      Leaf.given? payload relation idField leaves := by
  induction leaves using List.reverseRecOn with
  | nil => rfl
  | append_singleton leaves leaf induction =>
    rw [ofLeaves_append_singleton, Leaf.given?_append_singleton]
    by_cases there : leaf.relation = relation
    · rw [if_pos there, id_add, induction]
      simp only [there, true_and]
    · rw [if_neg there, induction]
      simp only [there, false_and, if_false]

theorem fields_ofLeaves (relation : String) (leaves : List Leaf) :
    (ofLeaves idField payload relation leaves).fields =
      Leaf.givenFields idField payload relation leaves := by
  induction leaves using List.reverseRecOn with
  | nil => rfl
  | append_singleton leaves leaf induction =>
    rw [ofLeaves_append_singleton, Leaf.givenFields, List.filter_append,
      List.map_append, ← Leaf.givenFields, ← induction]
    by_cases there : leaf.relation = relation
    · rw [if_pos there, fields_add]
      by_cases kept : leaf.field ≠ idField ∧
        (payload.lookup leaf.target).isNull = false
      · rw [if_pos kept]
        simp [there, kept.1, kept.2]
      · rw [if_neg kept]
        simpa [there] using kept
    · simp [there]

/-! ## Levels by depth -/

/-- A relation lies under another one, or is any other than the root under the
root. -/
def Under (relation above : String) : Prop :=
  above = rootRelation ∧ relation ≠ rootRelation ∨ Path.Extends relation above

theorem depth_lt_of_under {level above : Level}
    (under : Under level.relation above.relation) :
    above.depth < level.depth := by
  have positive := List.length_pos_iff.mpr (Path.segments_ne_nil level.relation)
  unfold depth
  rcases under with ⟨isRoot, other⟩ | under
  · rw [if_pos isRoot, if_neg other]
    exact positive
  · have longer := under.length_segments_lt
    have other : level.relation ≠ rootRelation := by
      rcases under with ⟨rest, extended⟩
      intro isRoot
      have lengths := congrArg String.length (extended.symm.trans isRoot)
      simp [rootRelation, String.length_append] at lengths
    rw [if_neg other]
    split <;> omega

theorem under_of_isBelow {relation above : String}
    (below : Path.isBelow relation above = true) : Under relation above :=
  .inr (Path.isBelow_iff.mp below).2

theorem isBelow_trans {relation middle above : String}
    (below : Path.isBelow relation middle = true)
    (further : Path.isBelow middle above = true) :
    Path.isBelow relation above = true := by
  rw [Path.isBelow_iff] at *
  exact ⟨further.1, below.2.trans further.2⟩

theorem pairwise_depth_ofPayload (idField : String) (payload : Json)
    (model : Model) :
    (ofPayload idField model payload).Pairwise fun left right =>
      left.depth ≤ right.depth := by
  rw [ofPayload]
  apply List.Pairwise.imp fun inOrder => of_decide_eq_true inOrder
  apply List.pairwise_mergeSort
  · intro left middle right before after
    rw [decide_eq_true_eq] at *
    omega
  · intro left right
    rw [Bool.or_eq_true, decide_eq_true_eq, decide_eq_true_eq]
    omega

/-! ## Telling levels apart -/

def isActive (levels : List Level) (level : Level) : Bool :=
  level.id.isSome && levels.all fun above =>
    !Path.isBelow level.relation above.relation || above.id.isSome

def active? (levels : List Level) (level : Level) : Option ActiveLevel :=
  if isActive levels level then
    level.id.map fun id => ⟨level.relation, id, level.fields⟩
  else none

theorem isActive_iff {levels : List Level} {level : Level} :
    isActive levels level = true ↔ level.id.isSome = true ∧
      ∀ above ∈ levels, Path.isBelow level.relation above.relation = true →
        above.id.isSome = true := by
  simp only [isActive, Bool.and_eq_true, List.all_eq_true, Bool.or_eq_true,
    Bool.not_eq_true', ← Bool.not_eq_true, imp_iff_not_or]

/-- A level lies under a skipped one exactly when it lies under one without an
identifier. -/
theorem any_skipped_iff {levels done rest : List Level} {level : Level}
    (sorted : levels.Pairwise fun left right => left.depth ≤ right.depth)
    (whole : levels = done ++ level :: rest) :
    ((done.filter fun other => !isActive levels other).map relation).any
        (Path.isBelow level.relation) = true ↔
      ∃ above ∈ levels, Path.isBelow level.relation above.relation = true ∧
        above.id.isSome = false := by
  simp only [List.any_eq_true, List.mem_map, List.mem_filter, Bool.not_eq_true']
  constructor
  · rintro ⟨_, ⟨above, ⟨member, skipped⟩, rfl⟩, below⟩
    have inLevels : above ∈ levels := by
      rw [whole]
      exact List.mem_append_left _ member
    by_cases identified : above.id.isSome = true
    · -- It is skipped for another level, which lies further up.
      have some : ¬ ∀ higher ∈ levels,
          Path.isBelow above.relation higher.relation = true →
          higher.id.isSome = true := by
        intro all
        rw [isActive_iff.mpr ⟨identified, all⟩] at skipped
        cases skipped
      push Not at some
      rcases some with ⟨higher, found, further, missing⟩
      exact ⟨higher, found, isBelow_trans below further, by simpa using missing⟩
    · exact ⟨above, inLevels, below, by simpa using identified⟩
  · rintro ⟨above, member, below, missing⟩
    have shallower := depth_lt_of_under (under_of_isBelow below)
    have before : above ∈ done := by
      rw [whole] at member sorted
      rcases List.mem_append.mp member with member | member
      · exact member
      · have later :=
          (List.pairwise_cons.mp (List.pairwise_append.mp sorted).2.1).1
        rcases List.mem_cons.mp member with rfl | member
        · omega
        · have deeper := later above member
          omega
    have skipped : isActive levels above = false := by
      rw [isActive, missing, Bool.false_and]
    exact ⟨_, ⟨above, ⟨before, skipped⟩, rfl⟩, below⟩

theorem separate_eq {levels : List Level}
    (sorted : levels.Pairwise fun left right => left.depth ≤ right.depth) :
    separate [] levels = (levels.filterMap (active? levels),
      (levels.filter fun level => !isActive levels level).map relation) := by
  suffices split : ∀ done rest, levels = done ++ rest →
      separate ((done.filter fun level => !isActive levels level).map relation)
        rest = (rest.filterMap (active? levels),
          (levels.filter fun level => !isActive levels level).map relation) from
    split [] levels rfl
  intro done rest whole
  induction rest generalizing done with
  | nil => rw [separate, whole, List.append_nil, List.filterMap_nil]
  | cons level rest induction =>
    have next := induction (done ++ [level]) (by simpa using whole)
    have above := any_skipped_iff sorted whole
    rw [List.filter_append, List.map_append] at next
    by_cases active : isActive levels level = true
    · have parts := isActive_iff.mp active
      rcases Option.isSome_iff_exists.mp parts.1 with ⟨id, identified⟩
      have clear :
          ((done.filter fun other => !isActive levels other).map
          Level.relation).any
          (Path.isBelow level.relation) = false := by
        rw [← Bool.not_eq_true, above]
        rintro ⟨higher, member, below, missing⟩
        rw [parts.2 higher member below] at missing
        cases missing
      have found : active? levels level =
          some ⟨level.relation, id, level.fields⟩ := by
        rw [active?, if_pos active, identified]
        rfl
      simp only [active, Bool.not_true, List.filter_cons, List.filter_nil,
        if_false, Bool.false_eq_true, List.map_nil, List.append_nil] at next
      rw [separate, identified]
      simp only [clear, Bool.false_eq_true, if_false, next,
        List.filterMap_cons, found]
    · have found : active? levels level = none := by rw [active?, if_neg active]
      have skipped : isActive levels level = false := by simpa using active
      simp only [skipped, Bool.not_false, List.filter_cons, List.filter_nil,
        if_true, List.map_cons, List.map_nil] at next
      rw [separate, List.filterMap_cons, found]
      cases identified : level.id with
      | none => exact next
      | some id =>
        have covered : ((done.filter fun other => !isActive levels other).map
            Level.relation).any (Path.isBelow level.relation) = true := by
          rw [above]
          by_contra clear
          push Not at clear
          refine active (isActive_iff.mpr ⟨by rw [identified]; rfl,
              fun higher member below => ?_⟩)
          exact eq_true_of_ne_false (clear higher member below)
        simp only [covered, if_true]
        exact next

/-! ## The levels of a payload -/

section Payload

variable {model : Model}

theorem hasLevel_iff {relation : String} :
    model.HasLevel relation ↔ ∃ level ∈ ofPayload idField model payload,
      level.relation = relation := by
  rw [← List.mem_map, (areLevels_ofPayload model).mem_iff]
  rfl

theorem id_of_mem_ofPayload {level : Level}
    (member : level ∈ ofPayload idField model payload) :
    level.id = model.levelId? idField payload level.relation := by
  have whole := (areLevels_ofPayload model).eq_ofLeaves level member
  rw [whole, id_ofLeaves, ofLeaves_relation]
  rfl

theorem fields_of_mem_ofPayload {level : Level}
    (member : level ∈ ofPayload idField model payload) :
    level.fields = Leaf.givenFields idField payload level.relation
      model.leaves := by
  have whole := (areLevels_ofPayload model).eq_ofLeaves level member
  rw [whole, fields_ofLeaves, ofLeaves_relation]

theorem id_head?_ofPayload :
    (ofPayload idField model payload).head?.bind Level.id =
      model.levelId? idField payload rootRelation := by
  have root : model.HasLevel rootRelation := .inl rfl
  rcases hasLevel_iff.mp root with ⟨level, member, isRoot⟩
  have sorted := pairwise_depth_ofPayload idField payload model
  cases levels : ofPayload idField model payload with
  | nil =>
    rw [levels] at member
    cases member
  | cons first rest =>
    rw [levels] at member sorted
    have isFirst : first.relation = rootRelation := by
      by_contra other
      have deeper : level.depth < first.depth :=
        depth_lt_of_under (.inl ⟨isRoot, other⟩)
      rcases List.mem_cons.mp member with rfl | member
      · omega
      · have shallower := (List.pairwise_cons.mp sorted).1 level member
        omega
    have identified := id_of_mem_ofPayload (levels ▸ List.mem_cons_self)
    rw [isFirst] at identified
    exact identified

theorem isActive_ofPayload_iff
    (root : (model.levelId? idField payload rootRelation).isSome = true)
    {level : Level} (member : level ∈ ofPayload idField model payload) :
    isActive (ofPayload idField model payload) level = true ↔
      model.IsActive idField payload level.relation := by
  rw [isActive_iff, id_of_mem_ofPayload member]
  constructor
  · rintro ⟨identified, above⟩
    refine ⟨hasLevel_iff.mpr ⟨level, member, rfl⟩, identified,
      fun relation has under => ?_⟩
    by_cases isRoot : relation = rootRelation
    · rw [isRoot]
      exact root
    · rcases hasLevel_iff.mp has with ⟨higher, found, rfl⟩
      rw [← id_of_mem_ofPayload found]
      exact above higher found (Path.isBelow_iff.mpr ⟨isRoot, under⟩)
  · rintro ⟨-, identified, above⟩
    refine ⟨identified, fun higher found below => ?_⟩
    rw [id_of_mem_ofPayload found]
    exact above higher.relation (hasLevel_iff.mpr ⟨higher, found, rfl⟩)
      (Path.isBelow_iff.mp below).2

variable (idField payload model)

def activeOf : List ActiveLevel :=
  (separate [] (ofPayload idField model payload)).1

def skippedOf : List String := (separate [] (ofPayload idField model payload)).2

variable {idField payload model}

theorem mem_activeOf_iff
    (root : (model.levelId? idField payload rootRelation).isSome = true)
    {active : ActiveLevel} :
    active ∈ activeOf idField payload model ↔
      model.IsActive idField payload active.relation ∧
        model.levelId? idField payload active.relation = some active.id ∧
        active.fields = Leaf.givenFields idField payload active.relation
          model.leaves := by
  rw [activeOf, separate_eq (pairwise_depth_ofPayload idField payload model),
    List.mem_filterMap]
  constructor
  · rintro ⟨level, member, found⟩
    unfold active? at found
    split at found
    next isActive =>
      rcases Option.map_eq_some_iff.mp found with ⟨id, identified, rfl⟩
      rw [id_of_mem_ofPayload member] at identified
      exact ⟨(isActive_ofPayload_iff root member).mp isActive, identified,
        fields_of_mem_ofPayload member⟩
    next => cases found
  · rcases active with ⟨relation, id, fields⟩
    rintro ⟨isActive, identified, given⟩
    dsimp only at isActive identified given
    subst given
    rcases hasLevel_iff.mp isActive.hasLevel with ⟨level, member, rfl⟩
    refine ⟨level, member, ?_⟩
    rw [active?, if_pos ((isActive_ofPayload_iff root member).mpr isActive),
      id_of_mem_ofPayload member, identified, fields_of_mem_ofPayload member]
    rfl

theorem mem_skippedOf_iff
    (root : (model.levelId? idField payload rootRelation).isSome = true)
    {relation : String} :
    relation ∈ skippedOf idField payload model ↔
      model.HasLevel relation ∧ ¬ model.IsActive idField payload relation := by
  rw [skippedOf,
    separate_eq (pairwise_depth_ofPayload idField payload model), List.mem_map]
  simp only [List.mem_filter, Bool.not_eq_true']
  constructor
  · rintro ⟨level, ⟨member, skipped⟩, rfl⟩
    refine ⟨hasLevel_iff.mpr ⟨level, member, rfl⟩, fun isActive => ?_⟩
    rw [(isActive_ofPayload_iff root member).mpr isActive] at skipped
    cases skipped
  · rintro ⟨has, skipped⟩
    rcases hasLevel_iff.mp has with ⟨level, member, rfl⟩
    refine ⟨level, ⟨member, ?_⟩, rfl⟩
    by_contra active
    exact skipped
      ((isActive_ofPayload_iff root member).mp (eq_true_of_ne_false active))

theorem map_relation_activeOf :
    (activeOf idField payload model).map ActiveLevel.relation =
      ((ofPayload idField model payload).filter fun level =>
        isActive (ofPayload idField model payload) level).map relation := by
  rw [activeOf, separate_eq (pairwise_depth_ofPayload idField payload model)]
  generalize ofPayload idField model payload = levels
  -- `levels` stays whole in the test while the list that is gone through gets
  -- shorter.
  suffices kept : ∀ rest : List Level, (rest.filterMap (active? levels)).map
      ActiveLevel.relation = (rest.filter (isActive levels)).map relation
        from kept levels
  intro rest
  induction rest with
  | nil => rfl
  | cons level rest induction =>
    by_cases active : isActive levels level = true
    · rcases Option.isSome_iff_exists.mp (isActive_iff.mp active).1 with
        ⟨id, identified⟩
      have found : active? levels level =
          some ⟨level.relation, id, level.fields⟩ := by
        rw [active?, if_pos active, identified]
        rfl
      rw [List.filterMap_cons_some found, List.filter_cons_of_pos active,
        List.map_cons, List.map_cons, induction]
    · have found : active? levels level = none := by rw [active?, if_neg active]
      rw [List.filterMap_cons_none found,
        List.filter_cons_of_neg active, induction]

theorem nodup_activeOf_append_skippedOf :
    ((activeOf idField payload model).map ActiveLevel.relation ++
      skippedOf idField payload model).Nodup := by
  have levels : AreLevels idField payload model.leaves
      (ofPayload idField model payload) :=
    areLevels_ofPayload model
  have parted := List.filter_append_perm
    (fun level => isActive (ofPayload idField model payload) level)
    (ofPayload idField model payload)
  rw [map_relation_activeOf, skippedOf,
    separate_eq (pairwise_depth_ofPayload idField payload model), ←
      List.map_append]
  exact ((parted.map relation).nodup_iff).mpr levels.distinct

theorem pairwise_not_under {levels : List Level}
    (sorted : levels.Pairwise fun left right => left.depth ≤ right.depth) :
    (levels.map relation).Pairwise fun earlier later =>
      ¬ Under earlier later := by
  rw [List.pairwise_map]
  refine sorted.imp fun inOrder under => ?_
  have deeper := depth_lt_of_under under
  omega

theorem pairwise_activeOf :
    ((activeOf idField payload model).map ActiveLevel.relation).Pairwise
      fun earlier later => ¬ Under earlier later := by
  rw [map_relation_activeOf]
  exact pairwise_not_under
    ((pairwise_depth_ofPayload idField payload model).filter _)

theorem pairwise_skippedOf :
    (skippedOf idField payload model).Pairwise fun earlier later =>
      ¬ Under earlier later := by
  rw [skippedOf, separate_eq (pairwise_depth_ofPayload idField payload model)]
  exact pairwise_not_under
    ((pairwise_depth_ofPayload idField payload model).filter _)

end Payload

end Level

end CriteriaQuery
