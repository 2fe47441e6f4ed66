import CriteriaQuery.Model.Projection
import CriteriaQuery.Proofs.Path.Prefix
import Mathlib.Data.List.Induction

namespace CriteriaQuery

/-! A row that is made of the values at some paths has these values at the same
paths, unless one of the paths lies under another one. Then neither value has a
place beside the other: what is put at the longer path makes an object of what
stands at the shorter one, and what is put at the shorter path covers what
stands at the longer one. -/

namespace Json

/-! ## Segments through objects -/

def reach? : List String → Json → Option Json
  | [], value => some value
  | segment :: rest, value => (value.get? segment).bind (reach? rest)

theorem follow_of_reach? {segments : List String} {row value : Json}
    (reached : row.reach? segments = some value) :
    follow segments row = value := by
  induction segments generalizing row with
  | nil => simpa [reach?, follow] using reached
  | cons segment rest induction =>
    cases row with
    | object members =>
      cases found : Keyed.get? segment members with
      | none => simp [reach?, get?, found] at reached
      | some inner =>
        simp only [reach?, get?, found, Option.bind_some] at reached
        simp only [follow, overItems, get?, found]
        exact induction reached
    | _ => simp [reach?, get?] at reached

theorem reach?_insertAlong (value : Json) {segments : List String}
    (some : segments ≠ []) (members : Members) :
    (Json.object (insertAlong value segments members)).reach? segments =
      .some value := by
  induction segments generalizing members with
  | nil => contradiction
  | cons key rest induction =>
    cases rest with
    | nil => simp [insertAlong, reach?, get?, Keyed.get?_set_self]
    | cons next more =>
      rw [insertAlong, reach?, get?, Keyed.get?_set_self]
      · exact induction (by simp) _
      · simp

/-- What is put where the segments do not pass stays out of their way. -/
theorem reach?_insertAlong_of_apart {segments other : List String}
    {members : Members} {found : Json}
    (reached : (Json.object members).reach? segments = some found)
    (apart : ¬ segments <+: other) (apart' : ¬ other <+: segments)
    (value : Json) :
    (Json.object (insertAlong value other members)).reach? segments =
      some found := by
  induction segments generalizing other members with
  | nil => exact absurd List.nil_prefix apart
  | cons segment rest induction =>
    cases other with
    | nil => exact absurd List.nil_prefix apart'
    | cons key more =>
      by_cases same : segment = key
      · subst same
        rw [List.prefix_cons_inj] at apart apart'
        cases more with
        | nil => exact absurd List.nil_prefix apart'
        | cons next others =>
          rw [insertAlong, reach?, get?, Keyed.get?_set_self]
          · cases rest with
            | nil => exact absurd List.nil_prefix apart
            | cons second remaining =>
              cases inside : Keyed.get? segment members with
              | none => simp [reach?, get?, inside] at reached
              | some inner =>
                cases inner with
                | object innerMembers =>
                  simp only [reach?, get?, inside, Option.bind_some] at reached
                  exact induction reached apart apart'
                | _ => simp [reach?, get?, inside] at reached
          · simp
      · cases more with
        | nil =>
          simpa [insertAlong, reach?, get?,
            Keyed.get?_set_of_ne same] using reached
        | cons next others =>
          simpa [insertAlong, reach?, get?,
            Keyed.get?_set_of_ne same] using reached

/-! ## Rows put together from paths -/

theorem get?_insertAlong_of_not_isSegment {path target : String}
    (dotted : ¬ Path.IsSegment path) (value : Json) (members : Members) :
    Keyed.get? path (insertAlong value (Path.segments target) members) =
      Keyed.get? path members := by
  cases cut : Path.segments target with
  | nil => exact absurd cut (Path.segments_ne_nil target)
  | cons key rest =>
    have different : path ≠ key := by
      rintro rfl
      exact dotted (Path.isSegment_of_mem_segments (by rw [cut]; simp))
    cases rest with
    | nil => rw [insertAlong, Keyed.get?_set_of_ne different]
    | cons next more =>
      rw [insertAlong, Keyed.get?_set_of_ne different]
      simp

theorem project_append_singleton (row : Json) (select : List SelectPath)
    (pair : SelectPath) :
    ∃ members, row.project select = .object members ∧
      row.project (select ++ [pair]) = .object
        (insertAlong (row.lookup pair.source)
          (Path.segments pair.target) members) := by
  refine ⟨_, rfl, ?_⟩
  rw [project, List.foldl_append]
  rfl

theorem get?_project_of_not_isSegment {path : String}
    (dotted : ¬ Path.IsSegment path) (row : Json) (select : List SelectPath) :
    (row.project select).get? path = none := by
  induction select using List.reverseRecOn with
  | nil => rfl
  | append_singleton select pair induction =>
    rcases project_append_singleton row select pair with ⟨members, before, after⟩
    rw [before, get?] at induction
    rw [after, get?, get?_insertAlong_of_not_isSegment dotted, induction]

/-- No key of a projected row has a dot in it, so its paths are always followed
segment by segment. -/
theorem lookup_project (row : Json) (select : List SelectPath) (path : String) :
    (row.project select).lookup path =
      follow (Path.segments path) (row.project select) := by
  unfold lookup
  split
  next value found =>
    have plain : Path.IsSegment path := by
      by_contra dotted
      rw [get?_project_of_not_isSegment dotted] at found
      cases found
    rw [Path.segments_of_isSegment plain]
    exact (follow_of_reach? (by simp [reach?, found])).symm
  next => rfl

theorem follow_append_of_null {segments : List String} {row : Json}
    (null : follow segments row = .null) (more : List String) :
    follow (segments ++ more) row = .null := by
  induction segments generalizing row with
  | nil =>
    have isNull : row = .null := null
    subst isNull
    cases more <;> rfl
  | cons segment rest induction =>
    cases row with
    | object members =>
      rw [List.cons_append]
      simp only [follow, overItems] at null ⊢
      cases found : (Json.object members).get? segment with
      | none => rfl
      | some inner =>
        rw [found] at null
        exact induction null
    | array items => simp [follow, overItems] at null
    | _ => rfl

/-! ## Paths beside each other -/

def Apart (paths : List String) : Prop :=
  ∀ above ∈ paths, ∀ path ∈ paths, ¬ Path.Extends path above

instance (paths : List String) : Decidable (Apart paths) :=
  inferInstanceAs (Decidable (∀ above ∈ paths, ∀ path ∈ paths,
      ¬ Path.Extends path above))

/-- Every target gets the value of one source, and none lies under another
one. -/
structure SeparateTargets (select : List SelectPath) : Prop where
  single : ∀ first ∈ select, ∀ second ∈ select, first.target = second.target →
    first.source = second.source
  apart : Apart (select.map SelectPath.target)

theorem SeparateTargets.of_append {front back : List SelectPath}
    (separate : SeparateTargets (front ++ back)) : SeparateTargets front := by
  constructor
  · intro first firstMember second secondMember
    exact separate.single first (List.mem_append_left _ firstMember) second
      (List.mem_append_left _ secondMember)
  · intro above aboveMember path member
    apply separate.apart
    · rw [List.map_append]
      exact List.mem_append_left _ aboveMember
    · rw [List.map_append]
      exact List.mem_append_left _ member

theorem SeparateTargets.not_prefix {select : List SelectPath}
    (separate : SeparateTargets select) {pair other : SelectPath}
    (member : pair ∈ select) (otherMember : other ∈ select)
    (different : pair.target ≠ other.target) :
    ¬ Path.segments pair.target <+: Path.segments other.target := by
  intro start
  rcases Path.eq_or_extends_of_prefix start with equal | under
  · exact different equal.symm
  · exact separate.apart _ (List.mem_map_of_mem member)
      _ (List.mem_map_of_mem otherMember) under

theorem reach?_project {select : List SelectPath}
    (separate : SeparateTargets select) (row : Json) {pair : SelectPath}
    (member : pair ∈ select) :
    (row.project select).reach? (Path.segments pair.target) =
      some (row.lookup pair.source) := by
  induction select using List.reverseRecOn with
  | nil => cases member
  | append_singleton select last induction =>
    obtain ⟨members, before, after⟩ := project_append_singleton row select last
    have lastMember : last ∈ select ++ [last] := by simp
    rw [after]
    by_cases same : pair.target = last.target
    · rw [same, separate.single pair member last lastMember same]
      exact reach?_insertAlong _ (Path.segments_ne_nil last.target) members
    · have earlier : pair ∈ select := by
        rcases List.mem_append.mp member with earlier | isLast
        · exact earlier
        · exact absurd (by rw [List.mem_singleton.mp isLast]) same
      have reached := induction separate.of_append earlier
      rw [before] at reached
      apply reach?_insertAlong_of_apart reached
      · exact separate.not_prefix member lastMember same
      · exact separate.not_prefix lastMember member (Ne.symm same)

theorem Apart.separateTargets {paths : List String} (apart : Apart paths) :
    SeparateTargets (paths.map SelectPath.same) := by
  have targets : (paths.map SelectPath.same).map SelectPath.target = paths := by
    simp [Function.comp_def, SelectPath.same]
  constructor
  · intro first firstMember second secondMember equal
    obtain ⟨path, -, rfl⟩ := List.mem_map.mp firstMember
    obtain ⟨other, -, rfl⟩ := List.mem_map.mp secondMember
    exact equal
  · rwa [targets]

theorem lookup_single_of_extends {path above : String}
    (dotted : ¬ Path.IsSegment path) (under : Path.Extends path above)
    (value : Json) : (Json.object [(path, value)]).lookup above = .null := by
  have different : path ≠ above := by
    rintro rfl
    rcases under.segments with ⟨more, some, cut⟩
    exact some (by simpa using cut)
  have absent : (Json.object [(path, value)]).get? above = none := by
    simp [get?, Keyed.get?, different]
  simp only [lookup, absent]
  cases cut : Path.segments above with
  | nil => exact absurd cut (Path.segments_ne_nil above)
  | cons key rest =>
    have notKey : path ≠ key := by
      rintro rfl
      exact dotted (Path.isSegment_of_mem_segments (by rw [cut]; simp))
    simp [follow, overItems, get?, Keyed.get?, notKey]

/-- A row put together from paths gives back what was read from every row
exactly when no path lies under another one. -/
theorem lookup_project_iff_apart (paths : List String) :
    (∀ row : Json, ∀ path ∈ paths,
      (row.project (paths.map SelectPath.same)).lookup path = row.lookup path) ↔
      Apart paths := by
  constructor
  · rintro kept above aboveMember path pathMember ⟨rest, rfl⟩
    have dotted : ¬ Path.IsSegment (above ++ "." ++ rest) := by
      simp [Path.IsSegment]
    have atPath :=
      kept (.object [(above ++ "." ++ rest, .bool true)]) _ pathMember
    have atAbove :=
      kept (.object [(above ++ "." ++ rest, .bool true)]) _ aboveMember
    -- The longer path is read as a key of its own here, and in what is put
    -- together only by way of the shorter one, where null stands.
    rw [lookup_project] at atPath atAbove
    rw [lookup_single_of_extends dotted ⟨rest, rfl⟩] at atAbove
    rw [Path.segments_append_dot, follow_append_of_null atAbove] at atPath
    simp [lookup, get?, Keyed.get?] at atPath
  · intro apart row path member
    rw [lookup_project]
    have pair : SelectPath.same path ∈ paths.map SelectPath.same :=
      List.mem_map_of_mem member
    exact follow_of_reach? (reach?_project apart.separateTargets row pair)

end Json

end CriteriaQuery
