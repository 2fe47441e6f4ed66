import CriteriaQuery.Model.Projection
import CriteriaQuery.Proofs.Path.Join
import Mathlib.Data.Set.Function

namespace CriteriaQuery

/-! What an instance tells of the row that it was made of. Every leaf has a place
of its own in the instance, where its coerced value can be read off again. -/

/-! ## Values by target -/

theorem TargetValues.lookup_ofRow {select : List SelectPath} {pair : SelectPath}
    (member : pair ∈ select)
    (single : ∀ other ∈ select,
      other.target = pair.target → other.source = pair.source)
    (row : Json) :
    (ofRow row select).lookup pair.target = some (row.lookup pair.source) := by
  have known : ((ofRow row select).lookup pair.target).isSome = true := by
    rw [List.lookup_isSome_iff]
    refine ⟨(pair.target, row.lookup pair.source), ?_, beq_self_eq_true _⟩
    rw [ofRow, List.mem_reverse, List.mem_map]
    exact ⟨pair, member, rfl⟩
  obtain ⟨value, found⟩ := Option.isSome_iff_exists.mp known
  have inside : (pair.target, value) ∈ ofRow row select := by
    obtain ⟨before, after, parted, -⟩ := List.lookup_eq_some_iff.mp found
    rw [parted]
    simp
  rw [ofRow, List.mem_reverse, List.mem_map] at inside
  obtain ⟨other, otherMember, equal⟩ := inside
  obtain ⟨sameTarget, sameValue⟩ := Prod.mk.inj equal
  rw [found, ← sameValue, single other otherMember sameTarget]

namespace ModelField

/-! ## Names -/

mutual

def IsNamed : ModelField → Prop
  | .submodel name _ _ fields => name ≠ "" ∧ AreNamed fields
  | .leaf name _ _ => name ≠ ""
  | .object name _ => name ≠ ""
  | .ignored name => name ≠ ""

def AreNamed : List ModelField → Prop
  | [] => True
  | field :: rest => IsNamed field ∧ field.name ∉ rest.map name ∧ AreNamed rest

end

mutual

/-- Below a path the targets of leaves begin with that path and a dot. -/
theorem target_of_mem_leaves {source path : String} (below : path ≠ "") :
    ∀ field : ModelField, field.IsNamed → ∀ found ∈ field.leaves source path,
      ∃ rest, found.target = path ++ "." ++ rest
  | .leaf name own kind, named, found, member => by
    rw [leaves, List.mem_singleton] at member
    subst member
    exact ⟨name, Path.join_of_name named below⟩
  | .object name own, named, found, member => by
    rw [leaves, List.mem_singleton] at member
    subst member
    exact ⟨name, Path.join_of_name named below⟩
  | .submodel name scope construction fields, named, found, member => by
    rw [leaves] at member
    obtain ⟨rest, target⟩ := target_of_mem_leavesOf
      (Path.join_ne_empty named.1 path) fields named.2 found member
    refine ⟨name ++ "." ++ rest, ?_⟩
    rw [target, Path.join_of_name named.1 below]
    simp only [String.append_assoc]
  | .ignored name, named, found, member => by cases member

theorem target_of_mem_leavesOf {source path : String} (below : path ≠ "") :
    ∀ fields : List ModelField, AreNamed fields →
      ∀ found ∈ leavesOf source path fields,
      ∃ rest, found.target = path ++ "." ++ rest
  | [], _, found, member => by cases member
  | field :: rest, named, found, member => by
    rw [leavesOf, List.mem_append] at member
    rcases member with first | later
    · exact target_of_mem_leaves below field named.1 found first
    · exact target_of_mem_leavesOf below rest named.2.2 found later

end

/-! ## Assigning -/

variable {values : TargetValues}

theorem get?_assign_of_ne (record : Bool) (path : String) {field : ModelField}
    {key : String} (different : key ≠ field.name) (members : Members) :
    Keyed.get? key (field.assign values record path members) =
      Keyed.get? key members := by
  cases field with
  | leaf name source kind =>
    rw [assign]
    split
    · exact Keyed.get?_set_of_ne different _ _
    · split
      · exact Keyed.get?_set_of_ne different _ _
      · rfl
  | object name source =>
    rw [assign]
    split
    · exact Keyed.get?_set_of_ne different _ _
    · rfl
  | submodel name scope construction fields =>
    rw [assign]
    split
    · exact Keyed.get?_set_of_ne different _ _
    · rfl
  | ignored name => rfl

theorem get?_assignAll_of_not_mem (record : Bool) (path : String)
    {fields : List ModelField} {key : String} (other : key ∉ fields.map name)
    (members : Members) :
    Keyed.get? key (assignAll values record path fields members) =
      Keyed.get? key members := by
  induction fields generalizing members with
  | nil => rfl
  | cons field rest induction =>
    rw [List.map_cons, List.mem_cons, not_or] at other
    rw [assignAll, induction other.2, get?_assign_of_ne record path other.1]

theorem reaches_of_lookup {target path rest : String} {value : Json}
    (known : values.lookup target = some value)
    (under : target = path ++ "." ++ rest) : values.reaches path = true := by
  obtain ⟨before, after, parted, -⟩ := List.lookup_eq_some_iff.mp known
  have start : Text.after? path.toList target.toList =
      some ('.' :: rest.toList) := by
    rw [Text.after?_eq_some_iff, under]
    simp
  rw [TargetValues.reaches, List.any_eq_true]
  exact ⟨(target, value), by simp [parted], by simp [start]⟩

/-! ## Reading off -/

def SameAt (values others : TargetValues) (found : Leaf) : Prop :=
  (values.lookup found.target).map found.kind.coerce =
    (others.lookup found.target).map found.kind.coerce

def BothAt (values others : TargetValues) (found : Leaf) : Prop :=
  (∃ value, values.lookup found.target = some value) ∧
    ∃ value, others.lookup found.target = some value

variable {others : TargetValues}

mutual

theorem sameAt_of_assign (record : Bool) (source path : String) :
    ∀ field : ModelField, field.IsNamed →
      (∀ found ∈ field.leaves source path, BothAt values others found) →
      ∀ members otherMembers : Members,
        Keyed.get? field.name (field.assign values record path members) =
          Keyed.get? field.name (field.assign others record path otherMembers) →
        ∀ found ∈ field.leaves source path, SameAt values others found
  | .leaf name own kind, named, both, members, otherMembers, same,
      found, member => by
    obtain ⟨⟨value, known⟩, other, alsoKnown⟩ := both found member
    rw [leaves, List.mem_singleton] at member
    subst member
    simp only [assign, known, alsoKnown, ModelField.name,
      Keyed.get?_set_self] at same
    rw [SameAt, known, alsoKnown]
    exact same
  | .object name own, named, both, members, otherMembers, same,
      found, member => by
    obtain ⟨⟨value, known⟩, other, alsoKnown⟩ := both found member
    rw [leaves, List.mem_singleton] at member
    subst member
    simp only [assign, known, alsoKnown, ModelField.name,
      Keyed.get?_set_self] at same
    rw [SameAt, known, alsoKnown]
    exact same
  | .submodel name scope construction fields, named, both, members, otherMembers,
      same, found, member => by
    rw [leaves] at member
    obtain ⟨⟨value, known⟩, other, alsoKnown⟩ := both found member
    obtain ⟨rest, under⟩ := target_of_mem_leavesOf
      (Path.join_ne_empty named.1 path) fields named.2 found member
    simp only [assign, reaches_of_lookup known under,
      reaches_of_lookup alsoKnown under,
      Bool.or_true, if_true, ModelField.name, Keyed.get?_set_self] at same
    have inside := Json.object.inj (Option.some.inj same)
    exact sameAt_of_assignAll construction.isRecord (Path.join source scope)
      (Path.join path name)
      fields named.2 both construction.blankMembers construction.blankMembers
      (fun key _ => by rw [inside]) found member
  | .ignored name, named, both, members, otherMembers, same, found,
      member => by cases member

theorem sameAt_of_assignAll (record : Bool) (source path : String) :
    ∀ fields : List ModelField, AreNamed fields →
      (∀ found ∈ leavesOf source path fields, BothAt values others found) →
      ∀ members otherMembers : Members,
        (∀ key ∈ fields.map name,
          Keyed.get? key (assignAll values record path fields members) =
            Keyed.get? key (assignAll others record path fields otherMembers)) →
        ∀ found ∈ leavesOf source path fields, SameAt values others found
  | [], named, both, members, otherMembers, same, found, member => by cases member
  | field :: rest, named, both, members, otherMembers, same, found, member => by
    rw [leavesOf, List.mem_append] at member
    simp only [assignAll, leavesOf, List.map_cons, List.forall_mem_cons,
      List.forall_mem_append] at same both
    rcases member with first | later
    · -- The fields behind this one leave what stands at its name alone.
      have atName := same.1
      rw [get?_assignAll_of_not_mem record path named.2.1,
        get?_assignAll_of_not_mem record path named.2.1] at atName
      exact sameAt_of_assign record source path field named.1 both.1 members
        otherMembers atName found first
    · exact sameAt_of_assignAll record source path rest named.2.2 both.2
        _ _ same.2 found later

end

end ModelField

namespace Model

open ModelField (SameAt BothAt AreNamed)

theorem sameAt_of_project {model : Model} (named : AreNamed model.fields)
    {row other : Json} {select : List SelectPath}
    (both : ∀ found ∈ model.leaves,
      BothAt (.ofRow row select) (.ofRow other select) found)
    (same : model.project row select = model.project other select) :
    ∀ found ∈ model.leaves, SameAt (.ofRow row select)
      (.ofRow other select) found := by
  have members := Json.object.inj same
  exact ModelField.sameAt_of_assignAll model.isRecord "" "" model.fields named
    both model.construction.blankMembers model.construction.blankMembers
    fun key _ => by rw [members]

/-- Instances tell apart the documents that a projection tells apart: every
target is read by a leaf and named with one source, and no leaf makes one value
of two that the documents have there. -/
structure TellsApart (model : Model) (select : List SelectPath)
    (documents : Set Json) : Prop where
  named : AreNamed model.fields
  single : ∀ first ∈ select, ∀ second ∈ select, first.target = second.target →
    first.source = second.source
  read : ∀ pair ∈ select, ∃ found ∈ model.leaves, found.target = pair.target
  coerced : ∀ found ∈ model.leaves, ∀ pair ∈ select, pair.target = found.target →
    Set.InjOn found.kind.coerce
      ((fun document => document.lookup pair.source) '' documents)

theorem TellsApart.coerce_lookup_eq {model : Model} {select : List SelectPath}
    {documents : Set Json} (told : model.TellsApart select documents)
    (covered : ∀ found ∈ model.leaves, ∃ pair ∈ select,
      pair.target = found.target)
    {row other : Json}
    (same : model.project row select = model.project other select)
    {pair : SelectPath} (member : pair ∈ select) :
    ∃ found ∈ model.leaves, found.target = pair.target ∧
      found.kind.coerce (row.lookup pair.source) =
        found.kind.coerce (other.lookup pair.source) := by
  have value {pair : SelectPath} (member : pair ∈ select) (row : Json) :
      (TargetValues.ofRow row select).lookup pair.target =
        some (row.lookup pair.source) :=
    TargetValues.lookup_ofRow member (fun other otherMember =>
      told.single other otherMember pair member) row
  have both : ∀ found ∈ model.leaves,
      BothAt (.ofRow row select) (.ofRow other select) found := by
    intro found foundMember
    obtain ⟨covering, coveringMember, target⟩ := covered found foundMember
    rw [BothAt, ← target]
    exact ⟨⟨_, value coveringMember row⟩, _, value coveringMember other⟩
  obtain ⟨found, foundMember, target⟩ := told.read pair member
  have coerced := sameAt_of_project told.named both same found foundMember
  rw [SameAt, target, value member row, value member other] at coerced
  exact ⟨found, foundMember, target, Option.some.inj coerced⟩

end Model

end CriteriaQuery
