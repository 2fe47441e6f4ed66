import CriteriaQuery.Proofs.Path.Segments

namespace CriteriaQuery

/-! A path lies under another one when a dot and more segments follow it. Seen
as lists of segments, the other one is a proper prefix. -/

theorem Text.join_append (separator : String) {first second : List String}
    (some : first ≠ []) (more : second ≠ []) :
    join separator (first ++ second) =
      join separator first ++ separator ++ join separator second := by
  induction first with
  | nil => contradiction
  | cons text rest induction =>
    cases rest with
    | nil =>
      cases second with
      | nil => contradiction
      | cons next others => rfl
    | cons next others =>
      have whole := induction (by simp)
      simp only [List.cons_append, join] at whole ⊢
      rw [whole]
      simp only [String.append_assoc]

namespace Path

theorem segments_ne_nil (path : String) : segments path ≠ [] :=
  Text.split_ne_nil '.' path

theorem join_segments (path : String) : Text.join "." (segments path) = path := by
  rcases isSegment_or_eq_append path with ⟨plain, -⟩ | ⟨above, parted, -⟩
  · rw [segments_of_isSegment plain, Text.join]
  · have shorter : above.length < path.length := by
      have dot : ".".length = 1 := rfl
      rw [parted, String.length_append, String.length_append]
      omega
    have whole := join_segments above
    rw [parted, segments_append_dot, segments_of_isSegment (isSegment_leaf path),
      Text.join_append "." (segments_ne_nil above) (by simp), whole, Text.join]
termination_by path.length

theorem segments_injective {path other : String}
    (equal : segments path = segments other) : path = other := by
  rw [← join_segments path, equal, join_segments]

def Extends (path above : String) : Prop := ∃ rest, path = above ++ "." ++ rest

theorem extends_iff_prefix {path above : String} :
    Extends path above ↔ (above ++ ".").toList <+: path.toList := by
  constructor
  · rintro ⟨rest, rfl⟩
    exact ⟨rest.toList, by simp⟩
  · rintro ⟨rest, whole⟩
    refine ⟨String.ofList rest, ?_⟩
    apply String.toList_injective
    simpa using whole.symm

instance (path above : String) : Decidable (Extends path above) :=
  decidable_of_iff _ extends_iff_prefix.symm

theorem Extends.segments {path above : String} (under : Extends path above) :
    ∃ more, more ≠ [] ∧ segments path = segments above ++ more := by
  rcases under with ⟨rest, rfl⟩
  exact ⟨Path.segments rest, segments_ne_nil rest, segments_append_dot above rest⟩

theorem eq_or_extends_of_prefix {path above : String}
    (start : segments above <+: segments path) :
    path = above ∨ Extends path above := by
  rcases start with ⟨more, whole⟩
  by_cases none : more = []
  · left
    apply segments_injective
    rw [← whole, none, List.append_nil]
  · right
    refine ⟨Text.join "." more, ?_⟩
    rw [← join_segments path, ← whole,
      Text.join_append "." (segments_ne_nil above) none, join_segments]

theorem Extends.trans {path middle above : String} (under : Extends path middle)
    (further : Extends middle above) : Extends path above := by
  rcases under with ⟨rest, rfl⟩
  rcases further with ⟨between, rfl⟩
  exact ⟨between ++ "." ++ rest, by simp only [String.append_assoc]⟩

theorem Extends.length_segments_lt {path above : String}
    (under : Extends path above) :
    (Path.segments above).length < (Path.segments path).length := by
  rcases under.segments with ⟨more, some, whole⟩
  have positive := List.length_pos_iff.mpr some
  rw [whole, List.length_append]
  omega

theorem isBelow_iff {path ancestor : String} :
    isBelow path ancestor = true ↔ ancestor ≠ "" ∧ Extends path ancestor := by
  rw [isBelow, Bool.and_eq_true, bne_iff_ne, extends_iff_prefix,
    String.toList_append]
  refine and_congr_right fun _ => ?_
  constructor
  · intro found
    split at found
    next rest begins =>
      rw [Text.after?_eq_some_iff] at begins
      exact ⟨rest, by simp [begins]⟩
    next => cases found
  · rintro ⟨rest, whole⟩
    have begins : Text.after? ancestor.toList path.toList =
        some ('.' :: rest) := by
      rw [Text.after?_eq_some_iff, ← whole]
      simp
    rw [begins]
    rfl

end Path

end CriteriaQuery
