import CriteriaQuery.Proofs.Model.Instance
import CriteriaQuery.Proofs.Model.Projection
import Mathlib.Data.List.Nodup

namespace CriteriaQuery

/-! A typed read is complete. The instance that a model makes of a row with the
projection that covers the model holds the value of every leaf at the leaf's
target, and a record in it has a value for every field. -/

/-! ## Built models -/

inductive Model.Built : Model → Prop
  | build {name : String} {construction : Construction}
    {declarations : List FieldDeclaration} {model : Model} :
    (∀ declaration ∈ declarations, ∀ scope inner,
      declaration.role = .submodel scope (.ok inner) → Built inner) →
    Model.build name construction declarations = .ok model → Built model

namespace ModelField

mutual

/-- What building sees to inside a field: names come once, and a record has no
field that it might get no value for. -/
def IsBuilt (record : Bool) : ModelField → Prop
  | .leaf _ _ _ => True
  | .submodel _ _ construction fields => AreBuilt construction.isRecord fields
  | .object _ _ => record = false
  | .ignored _ => record = false

def AreBuilt (record : Bool) : List ModelField → Prop
  | [] => True
  | field :: rest =>
    IsBuilt record field ∧ field.name ∉ rest.map name ∧ AreBuilt record rest

end

end ModelField

namespace Model

open ModelField (IsBuilt AreBuilt)

variable {model : String} {construction : Construction}

theorem isBuilt_of_field {declaration : FieldDeclaration} {field : ModelField}
    (inside : ∀ scope inner, declaration.role = .submodel scope (.ok inner) →
      AreBuilt inner.isRecord inner.fields)
    (made : declaration.field model construction = .ok field) :
    field.name = declaration.name ∧ field.IsBuilt construction.isRecord := by
  unfold FieldDeclaration.field at made
  split at made
  next source kind _ =>
    cases made
    exact ⟨rfl, by simp [IsBuilt]⟩
  next scope inner role =>
    cases inner with
    | error error => cases made
    | ok inner =>
      cases made
      refine ⟨rfl, ?_⟩
      rw [IsBuilt]
      exact inside scope inner role
  next source _ =>
    split at made
    · cases made
    next plain =>
      cases made
      exact ⟨rfl, by simpa [IsBuilt] using plain⟩
  next =>
    split at made
    · cases made
    next plain =>
      cases made
      exact ⟨rfl, by simpa [IsBuilt] using plain⟩

theorem areBuilt_of_buildFields {seen : List String}
    {declarations : List FieldDeclaration} {fields : List ModelField}
    (inside : ∀ declaration ∈ declarations, ∀ scope inner,
      declaration.role = .submodel scope (.ok inner) →
      AreBuilt inner.isRecord inner.fields)
    (made : buildFields model construction seen declarations = .ok fields) :
    AreBuilt construction.isRecord fields ∧
    ∀ name ∈ fields.map ModelField.name, name ∉ seen := by
  induction declarations generalizing seen fields with
  | nil =>
    cases made
    exact ⟨by simp [AreBuilt], by simp⟩
  | cons declaration rest induction =>
    rw [List.forall_mem_cons] at inside
    unfold buildFields at made
    split at made
    · cases made
    next fresh =>
      cases first : declaration.field model construction with
      | error error => simp [first, bind, Except.bind] at made
      | ok field =>
        cases others : buildFields model construction
            (declaration.name :: seen) rest with
        | error error => simp [first, others, bind, Except.bind] at made
        | ok more =>
          simp only [first, others, bind, Except.bind, pure, Except.pure,
            Except.ok.injEq] at made
          subst made
          obtain ⟨name, built⟩ := isBuilt_of_field inside.1 first
          obtain ⟨builtMore, apart⟩ := induction inside.2 others
          rw [List.map_cons, List.forall_mem_cons, AreBuilt, name]
          refine ⟨⟨built, fun again => ?_, builtMore⟩, by simpa using fresh,
            fun other member => ?_⟩
          · exact apart _ again List.mem_cons_self
          · exact fun earlier =>
              apart other member (List.mem_cons_of_mem _ earlier)

theorem Built.areBuilt {model : Model} (built : model.Built) :
    AreBuilt model.isRecord model.fields := by
  induction built with
  | @build name construction declarations model _ made induction =>
    -- The hypothesis is about the models inside the model, one for each
    -- declaration.
    cases fields : buildFields name construction [] declarations with
    | error error => simp [Model.build, fields, Except.map] at made
    | ok found =>
      simp only [Model.build, fields, Except.map, Except.ok.injEq] at made
      subst made
      exact (areBuilt_of_buildFields induction fields).1

end Model

/-! ## Names -/

namespace ModelField

mutual

def everyName : ModelField → List String
  | .leaf name _ _ => [name]
  | .submodel name _ _ fields => name :: everyNameOf fields
  | .object name _ => [name]
  | .ignored name => [name]

def everyNameOf : List ModelField → List String
  | [] => []
  | field :: rest => everyName field ++ everyNameOf rest

end

theorem name_mem_everyName (field : ModelField) :
    field.name ∈ field.everyName := by
  cases field <;> simp [name, everyName]

mutual

theorem isNamed_of_isBuilt :
    ∀ (field : ModelField) (record : Bool), field.IsBuilt record →
    (∀ name ∈ field.everyName, name ≠ "") → field.IsNamed
  | .leaf name _ _, _, _, names => by
    rw [IsNamed]
    exact names name (name_mem_everyName _)
  | .submodel name scope construction fields, _, built, names => by
    rw [IsBuilt] at built
    rw [everyName, List.forall_mem_cons] at names
    rw [IsNamed]
    exact ⟨names.1,
      areNamed_of_areBuilt fields construction.isRecord built names.2⟩
  | .object name _, _, _, names => by
    rw [IsNamed]
    exact names name (name_mem_everyName _)
  | .ignored name, _, _, names => by
    rw [IsNamed]
    exact names name (name_mem_everyName _)

theorem areNamed_of_areBuilt : ∀ (fields : List ModelField) (record : Bool),
    AreBuilt record fields →
    (∀ name ∈ everyNameOf fields, name ≠ "") → AreNamed fields
  | [], _, _, _ => by
    rw [AreNamed]
    trivial
  | field :: rest, record, built, names => by
    rw [AreBuilt] at built
    rw [everyNameOf, List.forall_mem_append] at names
    rw [AreNamed]
    exact ⟨isNamed_of_isBuilt field record built.1 names.1, built.2.1,
      areNamed_of_areBuilt rest record built.2.2 names.2⟩

end

end ModelField

/-! ## Values of leaves -/

namespace ModelField

variable {values : TargetValues}

theorem reach?_object (members : Members) (name : String) (more : List String) :
    (Json.object members).reach? (name :: more) =
      (Keyed.get? name members).bind (Json.reach? more) := rfl

mutual

/-- The names on the way to a leaf make its target, and they lead to the value
that is given for it. -/
theorem way_of_mem_leaves :
    ∀ (field : ModelField) (record : Bool) (source path : String),
    field.IsNamed → ∀ found ∈ field.leaves source path, ∃ more,
      found.target = (field.name :: more).foldl Path.join path ∧
      (∀ name ∈ field.name :: more, name ∈ field.everyName) ∧
      ∀ (value : Json) (members : Members), values.lookup found.target =
        some value →
          (Json.object (field.assign values record path members)).reach?
          (field.name :: more) = some (found.kind.coerce value)
  | .leaf name own kind, record, source, path, named, found, member => by
    rw [leaves, List.mem_singleton] at member
    subst member
    refine ⟨[], rfl, by simp [ModelField.name, everyName],
      fun value members known => ?_⟩
    rw [assign, known, reach?_object, ModelField.name, Keyed.get?_set_self]
    rfl
  | .object name own, record, source, path, named, found, member => by
    rw [leaves, List.mem_singleton] at member
    subst member
    refine ⟨[], rfl, by simp [ModelField.name, everyName],
      fun value members known => ?_⟩
    rw [assign, known, reach?_object, ModelField.name, Keyed.get?_set_self]
    rfl
  | .submodel name scope construction fields, record, source, path, named,
      found, member => by
    rw [IsNamed] at named
    rw [leaves] at member
    obtain ⟨first, more, target, names, reached⟩ := way_of_mem_leavesOf fields
      construction.isRecord (Path.join source scope) (Path.join path name)
        named.2 found member
    refine ⟨first :: more, target, ?_, fun value members known => ?_⟩
    · rw [everyName, ModelField.name]
      exact List.forall_mem_cons.mpr ⟨List.mem_cons_self, fun name member =>
        List.mem_cons_of_mem _ (names name member)⟩
    · obtain ⟨rest, under⟩ := target_of_mem_leavesOf
        (Path.join_ne_empty named.1 path) fields named.2 found member
      rw [assign, reaches_of_lookup known under, Bool.or_true, if_pos rfl,
        reach?_object, ModelField.name, Keyed.get?_set_self]
      exact reached value construction.blankMembers known
  | .ignored name, _, _, _, _, found, member => by cases member

theorem way_of_mem_leavesOf : ∀ (fields : List ModelField) (record : Bool)
    (source path : String), AreNamed fields →
    ∀ found ∈ leavesOf source path fields, ∃ first more,
      found.target = (first :: more).foldl Path.join path ∧
      (∀ name ∈ first :: more, name ∈ everyNameOf fields) ∧
      ∀ (value : Json) (members : Members), values.lookup found.target =
        some value →
          (Json.object (assignAll values record path fields members)).reach?
          (first :: more) = some (found.kind.coerce value)
  | [], _, _, _, _, found, member => by cases member
  | field :: rest, record, source, path, named, found, member => by
    rw [AreNamed] at named
    rw [leavesOf, List.mem_append] at member
    rw [everyNameOf]
    rcases member with first | later
    · obtain ⟨more, target, names, reached⟩ :=
        way_of_mem_leaves field record source path named.1 found first
      refine ⟨field.name, more, target, fun name member =>
        List.mem_append_left _ (names name member), fun value members known => ?_⟩
      -- The fields behind this one leave what stands at its name alone.
      have kept := reached value members known
      rwa [reach?_object, ← get?_assignAll_of_not_mem record path named.2.1,
        ← reach?_object] at kept
    · obtain ⟨first, more, target, names, reached⟩ :=
        way_of_mem_leavesOf rest record source path named.2.2 found later
      exact ⟨first, more, target,
        fun name member => List.mem_append_right _ (names name member),
        fun value members known =>
        reached value (field.assign values record path members) known⟩

end

/-! ## Keys of records -/

/-- A record with these fields stands at a place, given by the names on the way to
it through the fields of a model. -/
inductive RecordAt (found : List ModelField) :
    Construction → List ModelField → List String → Prop
  | here : RecordAt found .record found []
  | inside {construction inner : Construction}
    {fields innerFields : List ModelField}
    {name scope : String} {place : List String} :
    .submodel name scope inner innerFields ∈ fields →
      RecordAt found inner innerFields place →
      RecordAt found construction fields (name :: place)

theorem mem_keys_set {α : Type} {key other : String} {value : α}
    {entries : Keyed α} :
    other ∈ Keyed.keys (Keyed.set key value entries) ↔
    other = key ∨ other ∈ Keyed.keys entries := by
  induction entries with
  | nil => simp [Keyed.set, Keyed.keys]
  | cons entry rest induction =>
    obtain ⟨name, old⟩ := entry
    unfold Keyed.keys at induction ⊢
    unfold Keyed.set
    split
    · simp
    next order =>
      have same : key = name := by simpa using order
      simp [same]
    · rw [List.map_cons, List.mem_cons, induction, List.map_cons, List.mem_cons]
      exact or_left_comm

theorem mem_keys_assign {path key : String} {field : ModelField}
    (built : field.IsBuilt true) (members : Members) :
    key ∈ Keyed.keys (field.assign values true path members) ↔
      key = field.name ∨ key ∈ Keyed.keys members := by
  cases field with
  | leaf name source kind =>
    rw [assign]
    split <;> exact mem_keys_set
  | submodel name scope construction fields =>
    rw [assign, Bool.true_or, if_pos rfl]
    exact mem_keys_set
  | object name source =>
    rw [IsBuilt] at built
    cases built
  | ignored name =>
    rw [IsBuilt] at built
    cases built

theorem mem_keys_assignAll {path key : String} {fields : List ModelField}
    (built : AreBuilt true fields) (members : Members) :
    key ∈ Keyed.keys (assignAll values true path fields members) ↔
      key ∈ fields.map name ∨ key ∈ Keyed.keys members := by
  induction fields generalizing members with
  | nil => simp [assignAll]
  | cons field rest induction =>
    rw [AreBuilt] at built
    rw [assignAll, induction built.2.2, mem_keys_assign built.1,
      List.map_cons, List.mem_cons]
    exact or_left_comm.trans or_assoc.symm

mutual

theorem length_leaves (source path other target : String) : ∀ field : ModelField,
    (field.leaves source path).length = (field.leaves other target).length
  | .leaf _ _ _ => rfl
  | .submodel name scope _ fields => by
    rw [leaves, leaves]
    exact length_leavesOf _ _ _ _ fields
  | .object _ _ => rfl
  | .ignored _ => rfl

theorem length_leavesOf (source path other target : String) :
    ∀ fields : List ModelField,
    (leavesOf source path fields).length = (leavesOf other target fields).length
  | [] => rfl
  | field :: rest => by
    rw [leavesOf, leavesOf, List.length_append, List.length_append,
      length_leaves source path other target field,
      length_leavesOf source path other target rest]

end

theorem leaves_subset_leavesOf {field : ModelField} {fields : List ModelField}
    (member : field ∈ fields) (source path : String) :
    field.leaves source path ⊆ leavesOf source path fields := by
  induction fields with
  | nil => cases member
  | cons first rest induction =>
    rw [leavesOf]
    rcases List.mem_cons.mp member with rfl | later
    · exact List.subset_append_left _ _
    · exact List.subset_append_of_subset_right _ (induction later)

theorem RecordAt.leavesOf_ne_nil {found fields : List ModelField}
    {construction : Construction} {place : List String}
    (stands : RecordAt found construction fields place)
    (leafy : leavesOf "" "" found ≠ []) (source path : String) :
    leavesOf source path fields ≠ [] := by
  induction stands generalizing source path with
  | here =>
    rw [← List.length_pos_iff] at leafy ⊢
    rwa [length_leavesOf source path "" "" found]
  | @inside construction inner fields innerFields name scope place
      member _ induction =>
    have below := induction (Path.join source scope) (Path.join path name)
    obtain ⟨leaf, isLeaf⟩ := List.exists_mem_of_ne_nil _ below
    exact List.ne_nil_of_mem
      (leaves_subset_leavesOf member source path (by rwa [leaves]))

theorem get?_assignAll_submodel {record : Bool} {path name scope : String}
    {construction : Construction} {inner fields : List ModelField}
    (named : AreNamed fields)
    (member : .submodel name scope construction inner ∈ fields)
    (reached : values.reaches (Path.join path name) = true) (members : Members) :
    Keyed.get? name (assignAll values record path fields members) =
      some (.object
        (assignAll values construction.isRecord (Path.join path name) inner
        construction.blankMembers)) := by
  induction fields generalizing members with
  | nil => cases member
  | cons field rest induction =>
    rw [AreNamed] at named
    rw [assignAll]
    rcases List.mem_cons.mp member with rfl | later
    · have apart : name ∉ rest.map ModelField.name := named.2.1
      rw [get?_assignAll_of_not_mem record path apart, assign, reached,
        Bool.or_true, if_pos rfl, Keyed.get?_set_self]
    · exact induction named.2.2 later _

theorem of_mem {record : Bool} {field : ModelField} {fields : List ModelField}
    (member : field ∈ fields) (named : AreNamed fields)
    (built : AreBuilt record fields) :
    field.IsNamed ∧ field.IsBuilt record := by
  induction fields with
  | nil => cases member
  | cons first rest induction =>
    rw [AreNamed] at named
    rw [AreBuilt] at built
    rcases List.mem_cons.mp member with rfl | later
    · exact ⟨named.1, built.1⟩
    · exact induction later named.2.2 built.2.2

/-- With a value for every leaf, a record with a leaf is an object with a member
for each of its fields. -/
theorem RecordAt.keys {found fields : List ModelField}
    {construction : Construction} {place : List String}
    (stands : RecordAt found construction fields place)
    (leafy : leavesOf "" "" found ≠ []) (source path : String)
    (named : AreNamed fields) (built : AreBuilt construction.isRecord fields)
    (known : ∀ leaf ∈ leavesOf source path fields, ∃ value,
      values.lookup leaf.target = some value) :
    ∃ members, (Json.object (assignAll values construction.isRecord path fields
        construction.blankMembers)).reach? place = some (.object members) ∧
      ∀ key, key ∈ Keyed.keys members ↔ key ∈ found.map name := by
  induction stands generalizing source path with
  | here =>
    refine ⟨_, rfl, fun key => ?_⟩
    rw [Construction.isRecord, mem_keys_assignAll built]
    simp [Construction.blankMembers, Keyed.keys]
  | @inside construction inner fields innerFields name scope place member
      stands induction =>
    obtain ⟨innerNamed, innerBuilt⟩ := of_mem member named built
    rw [IsNamed] at innerNamed
    rw [IsBuilt] at innerBuilt
    have innerLeaves := leaves_subset_leavesOf member source path
    rw [leaves] at innerLeaves
    -- The leaf of the record has a target under the name, so the model there is
    -- made.
    have reached : values.reaches (Path.join path name) = true := by
      obtain ⟨leaf, isLeaf⟩ := List.exists_mem_of_ne_nil _
        (stands.leavesOf_ne_nil leafy
          (Path.join source scope) (Path.join path name))
      obtain ⟨value, lookedUp⟩ := known leaf (innerLeaves isLeaf)
      obtain ⟨rest, under⟩ := target_of_mem_leavesOf
        (Path.join_ne_empty innerNamed.1 path)
        innerFields innerNamed.2 leaf isLeaf
      exact reaches_of_lookup lookedUp under
    rw [reach?_object, get?_assignAll_submodel named member reached]
    exact induction (Path.join source scope) (Path.join path name) innerNamed.2
      innerBuilt fun leaf isLeaf => known leaf (innerLeaves isLeaf)

end ModelField

/-! ## Complete reads -/

namespace Model

open ModelField (AreNamed AreBuilt RecordAt everyNameOf leavesOf)

theorem lookup_ofRow_select {model : Model}
    (distinct : (model.leaves.map Leaf.target).Nodup) {found : Leaf}
    (member : found ∈ model.leaves) (row : Json) :
    (TargetValues.ofRow row model.select).lookup found.target =
      some (row.lookup found.source) := by
  have pair : SelectPath.mk found.source found.target ∈ model.select :=
    List.mem_map_of_mem (f :=
      fun leaf : Leaf => SelectPath.mk leaf.source leaf.target) member
  refine TargetValues.lookup_ofRow pair (fun other otherMember same => ?_) row
  obtain ⟨leaf, isLeaf, rfl⟩ := List.mem_map.mp otherMember
  rw [List.inj_on_of_nodup_map distinct isLeaf member same]

/-- The instance that a model makes of a row with the projection that covers the
model holds, at the target of each leaf, the value at the leaf's source coerced to
its kind; and where a record with a leaf stands, it holds an object with exactly
the fields of the record. -/
theorem project_select_complete {model : Model} (built : model.Built)
    (named : ∀ name ∈ everyNameOf model.fields, name ≠ "" ∧ Path.IsSegment name)
    (distinct : (model.leaves.map Leaf.target).Nodup) (row : Json) :
    (∀ found ∈ model.leaves,
      (model.project row model.select).reach? (Path.segments found.target) =
        some (found.kind.coerce (row.lookup found.source))) ∧
    ∀ place fields, RecordAt fields model.construction model.fields place →
      leavesOf "" "" fields ≠ [] →
      ∃ members, (model.project row model.select).reach? place =
        some (.object members) ∧
        ∀ key, key ∈ Keyed.keys members ↔ key ∈ fields.map ModelField.name := by
  have areNamed : AreNamed model.fields := ModelField.areNamed_of_areBuilt
    model.fields
    model.isRecord built.areBuilt fun name member => (named name member).1
  constructor
  · intro found member
    obtain ⟨first, more, target, names, reached⟩ :=
      ModelField.way_of_mem_leavesOf model.fields
      model.isRecord "" "" areNamed found member
    have segments : Path.segments found.target = first :: more := by
      rw [target]
      exact Path.segments_foldl_join (List.cons_ne_nil first more)
          fun name isName =>
        named name (names name isName)
    rw [segments]
    exact reached _ model.construction.blankMembers
      (lookup_ofRow_select distinct member row)
  · intro place fields stands leafy
    exact stands.keys leafy "" "" areNamed built.areBuilt fun leaf isLeaf =>
      ⟨_, lookup_ofRow_select distinct isLeaf row⟩

def placeModel : Model :=
  ⟨"Place", .record, [.leaf "lat" "lat" .any, .leaf "lon" "lon" .any]⟩

def homeModel : Model where
  name := "Home"
  construction := .assigned (.object [("city", .string "")])
  fields := [.leaf "city" "city" .text,
    .submodel "place" "place" .record placeModel.fields]

def staffModel : Model where
  name := "Staff"
  construction := .record
  fields := [.leaf "name" "name" .any,
    .submodel "home" "address" homeModel.construction homeModel.fields]

theorem built_staffModel : staffModel.Built := by
  have place : placeModel.Built := by
    refine @Built.build "Place" .record [.leaf "lat", .leaf "lon"]
      placeModel ?_ rfl
    simp [FieldDeclaration.leaf]
  have home : homeModel.Built := by
    refine @Built.build "Home" homeModel.construction
      [(FieldDeclaration.leaf "city").withKind .text,
        .submodel "place" (.ok placeModel)]
      homeModel ?_ rfl
    simpa [FieldDeclaration.leaf, FieldDeclaration.withKind,
      FieldDeclaration.submodel] using place
  refine @Built.build "Staff" .record
    [.leaf "name",
      (FieldDeclaration.submodel "home" (.ok homeModel)).withScope "address"]
    staffModel ?_ rfl
  simpa [FieldDeclaration.leaf, FieldDeclaration.withScope,
    FieldDeclaration.submodel] using home

/-- The row has the city only; what else the model reads is null. -/
theorem project_select_staffModel :
    (∀ found ∈ staffModel.leaves,
      (staffModel.project (.object [("address.city", .ofNat 7)])
          staffModel.select).reach? (Path.segments found.target) =
        some (found.kind.coerce
          ((Json.object [("address.city", .ofNat 7)]).lookup found.source))) ∧
    ∃ members, (staffModel.project (.object [("address.city", .ofNat 7)])
        staffModel.select).reach? ["home", "place"] = some (.object members) ∧
      ∀ key, key ∈ Keyed.keys members ↔ key ∈ ["lat", "lon"] := by
  have named : ∀ name ∈ everyNameOf staffModel.fields, name ≠ "" ∧
      Path.IsSegment name := by
    simp [staffModel, homeModel, placeModel, everyNameOf,
      ModelField.everyName, Path.IsSegment]
  have distinct : (staffModel.leaves.map Leaf.target).Nodup := by decide
  have complete := project_select_complete built_staffModel named distinct
    (.object [("address.city", .ofNat 7)])
  refine ⟨complete.1,
    complete.2 ["home", "place"] placeModel.fields ?_ (by decide)⟩
  exact .inside (List.mem_cons_of_mem _ List.mem_cons_self)
    (.inside (List.mem_cons_of_mem _ List.mem_cons_self) .here)

end Model

end CriteriaQuery
