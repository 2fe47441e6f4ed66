import CriteriaQuery.Proofs.Json.Identity
import CriteriaQuery.Proofs.Model.Completeness

namespace CriteriaQuery

/-! Targets of leaves. Building a model sees to it that no two leaves are
reached by the same names. Their targets, which are these names joined, can
still be one path, because empty names leave no trace in it and a name can have
dots. -/

namespace ModelField

/-! ## Names on the way to a leaf -/

mutual

def ways : ModelField → List (List String)
  | .leaf name _ _ => [[name]]
  | .object name _ => [[name]]
  | .submodel name _ _ fields => (waysOf fields).map (name :: ·)
  | .ignored _ => []

def waysOf : List ModelField → List (List String)
  | [] => []
  | field :: rest => field.ways ++ waysOf rest

end

mutual

theorem map_target_leaves : ∀ (field : ModelField) (source path : String),
    (field.leaves source path).map Leaf.target =
      field.ways.map (·.foldl Path.join path)
  | .leaf _ _ _, _, _ => rfl
  | .object _ _, _, _ => rfl
  | .submodel name scope _ fields, source, path => by
    rw [leaves, ways, map_target_leavesOf fields, List.map_map]
    rfl
  | .ignored _, _, _ => rfl

theorem map_target_leavesOf : ∀ (fields : List ModelField) (source path : String),
    (leavesOf source path fields).map Leaf.target =
      (waysOf fields).map (·.foldl Path.join path)
  | [], _, _ => rfl
  | field :: rest, source, path => by
    rw [leavesOf, waysOf, List.map_append, List.map_append,
      map_target_leaves field source path, map_target_leavesOf rest source path]

end

theorem head?_of_mem_ways {field : ModelField} {way : List String}
    (member : way ∈ field.ways) : way.head? = some field.name := by
  cases field with
  | leaf name source kind =>
    rw [ways, List.mem_singleton] at member
    subst member
    rfl
  | object name source =>
    rw [ways, List.mem_singleton] at member
    subst member
    rfl
  | submodel name scope construction fields =>
    rw [ways] at member
    rcases List.mem_map.mp member with ⟨inner, -, rfl⟩
    rfl
  | ignored name => cases member

theorem exists_of_mem_waysOf {fields : List ModelField} {way : List String}
    (member : way ∈ waysOf fields) :
    ∃ name ∈ fields.map ModelField.name, way.head? = some name := by
  induction fields with
  | nil => cases member
  | cons field rest induction =>
    rw [waysOf, List.mem_append] at member
    rcases member with first | later
    · exact ⟨field.name, List.mem_cons_self, head?_of_mem_ways first⟩
    · rcases induction later with ⟨name, isName, head⟩
      exact ⟨name, List.mem_cons_of_mem _ isName, head⟩

mutual

theorem nodup_ways :
    ∀ (field : ModelField) (record : Bool), field.IsBuilt record →
    field.ways.Nodup
  | .leaf _ _ _, _, _ => List.nodup_singleton _
  | .object _ _, _, _ => List.nodup_singleton _
  | .submodel name scope construction fields, _, built => by
    rw [IsBuilt] at built
    exact (nodup_waysOf fields construction.isRecord built).map
      (List.cons_injective)
  | .ignored _, _, _ => .nil

theorem nodup_waysOf :
    ∀ (fields : List ModelField) (record : Bool), AreBuilt record fields →
    (waysOf fields).Nodup
  | [], _, _ => .nil
  | field :: rest, record, built => by
    rw [AreBuilt] at built
    apply List.Nodup.append (nodup_ways field record built.1)
      (nodup_waysOf rest record built.2.2)
    -- Ways through different fields begin with different names.
    intro way first later
    rcases exists_of_mem_waysOf later with ⟨name, isName, head⟩
    rw [head?_of_mem_ways first] at head
    cases head
    exact built.2.1 isName

end

mutual

theorem mem_everyName_of_mem_ways :
    ∀ field : ModelField, ∀ way ∈ field.ways, ∀ name ∈ way,
    name ∈ field.everyName
  | .leaf _ _ _, _, member, _, isName => by
    rw [ways, List.mem_singleton] at member
    rwa [member] at isName
  | .object _ _, _, member, _, isName => by
    rw [ways, List.mem_singleton] at member
    rwa [member] at isName
  | .submodel _ _ _ fields, _, member, name, isName => by
    rw [ways] at member
    rcases List.mem_map.mp member with ⟨inner, innerMember, rfl⟩
    rw [everyName]
    rcases List.mem_cons.mp isName with rfl | inside
    · exact List.mem_cons_self
    · exact List.mem_cons_of_mem _
        (mem_everyNameOf_of_mem_waysOf fields inner innerMember name inside)

theorem mem_everyNameOf_of_mem_waysOf :
    ∀ fields : List ModelField, ∀ way ∈ waysOf fields,
    ∀ name ∈ way, name ∈ everyNameOf fields
  | field :: rest, way, member, name, isName => by
    rw [waysOf, List.mem_append] at member
    rw [everyNameOf, List.mem_append]
    rcases member with first | later
    · exact .inl (mem_everyName_of_mem_ways field way first name isName)
    · exact .inr (mem_everyNameOf_of_mem_waysOf rest way later name isName)

end

end ModelField

/-! ## Different targets -/

namespace Model

open ModelField (waysOf everyNameOf nodup_waysOf)

/-- No two leaves of a built model are reached by the same names. Their targets
are pairwise distinct exactly when these names are not spelled alike either, as
when none of them is empty or has a dot. With distinct targets the value that a
covering projection gives a leaf is the one at the leaf's own source. -/
theorem targets_distinct_iff {model : Model} (built : model.Built) :
    (waysOf model.fields).Nodup ∧
      ((model.leaves.map Leaf.target).Nodup ↔
        Set.InjOn Path.spelled {way | way ∈ waysOf model.fields}) ∧
      ((∀ name ∈ everyNameOf model.fields, name ≠ "" ∧ Path.IsSegment name) →
        (model.leaves.map Leaf.target).Nodup) ∧
      ((model.leaves.map Leaf.target).Nodup → ∀ row, ∀ found ∈ model.leaves,
        (TargetValues.ofRow row model.select).lookup found.target =
          some (row.lookup found.source)) := by
  have nodup := nodup_waysOf model.fields model.isRecord built.areBuilt
  have distinct : (model.leaves.map Leaf.target).Nodup ↔
      Set.InjOn Path.spelled {way | way ∈ waysOf model.fields} := by
    rw [leaves, ModelField.map_target_leavesOf, List.nodup_map_iff_inj_on nodup]
    simp only [Path.foldl_join_eq_iff]
    exact ⟨fun same _ member _ other => same _ member _ other,
      fun same _ member _ other => same member other⟩
  refine ⟨nodup, distinct, ?_, ?_⟩
  · intro plain
    have spelledAsTheyAre : ∀ way ∈ waysOf model.fields,
        Path.spelled way = way := by
      intro way member
      apply Path.spelled_of_plain
      intro name isName
      exact plain name
        (ModelField.mem_everyNameOf_of_mem_waysOf model.fields way
        member name isName)
    apply distinct.mpr
    intro way member other otherMember same
    rwa [spelledAsTheyAre way member, spelledAsTheyAre other otherMember] at same
  · intro once row found member
    exact lookup_ofRow_select once member row

def codeModel : Model := ⟨"Code", .record, [.leaf "code" "code" .any]⟩

def countryModel : Model where
  name := "Country"
  construction := .record
  fields :=
    [.leaf "tax.code" "vat" .any, .submodel "tax" "tax" .record codeModel.fields]

theorem built_countryModel : countryModel.Built := by
  have code : codeModel.Built := by
    refine @Built.build "Code" .record [.leaf "code"] codeModel ?_ rfl
    simp [FieldDeclaration.leaf]
  refine @Built.build "Country" .record
    [(FieldDeclaration.leaf "tax.code").withSource "vat",
      .submodel "tax" (.ok codeModel)]
    countryModel ?_ rfl
  simpa [FieldDeclaration.leaf, FieldDeclaration.withSource,
    FieldDeclaration.submodel] using code

/-- Both leaves are read from the place of the second one. -/
theorem tax_code_of_countryModel :
    ¬ (countryModel.leaves.map Leaf.target).Nodup ∧
      countryModel.project
          (.object [("tax", .object [("code", .ofNat 2)]), ("vat", .ofNat 1)])
          countryModel.select =
        .object
          [("tax", .object [("code", .ofNat 2)]), ("tax.code", .ofNat 2)] := by
  rcases targets_distinct_iff built_countryModel with ⟨-, distinct, -, -⟩
  constructor
  · rw [distinct]
    intro injective
    have same : ["tax.code"] = ["tax", "code"] :=
      injective (by decide) (by decide) (by decide)
    exact absurd same (by decide)
  · decide +kernel

end Model

end CriteriaQuery
