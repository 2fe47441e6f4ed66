import CriteriaQuery.Proofs.Path.Segments

namespace CriteriaQuery.Path

/-! Boundaries grow by one segment at a time, and a path is relative to the
boundary right above it by its leaf. -/

def IsRooted (path : String) : Prop := path.toList.head? ≠ some '.'

instance (path : String) : Decidable (IsRooted path) :=
  inferInstanceAs (Decidable (path.toList.head? ≠ some '.'))

theorem IsRooted.of_append_dot {above below : String}
    (rooted : IsRooted (above ++ "." ++ below)) :
    above ≠ "" ∧ IsRooted above := by
  unfold IsRooted at *
  cases characters : above.toList with
  | nil => simp [characters] at rooted
  | cons c rest =>
    constructor
    · rintro rfl
      simp at characters
    · simpa [characters] using rooted

theorem relativeTo_root {path : String} (rooted : IsRooted path) :
    relativeTo path "" = path := by
  unfold relativeTo
  split
  next rest found =>
    have begins : path.toList = '.' :: rest := by simpa [Text.after?] using found
    exact absurd (by rw [begins]; rfl) rooted
  next => rfl

theorem relativeTo_append_dot (above below : String) :
    relativeTo (above ++ "." ++ below) above = below := by
  have found : Text.after? above.toList (above ++ "." ++ below).toList =
      some ('.' :: below.toList) := by
    rw [Text.after?_eq_some_iff]
    simp
  simp only [relativeTo, found, String.ofList_toList]

theorem relativeTo_extend {segment : String} (plain : IsSegment segment)
    (boundary : String) :
    relativeTo (extend boundary segment) boundary = segment := by
  unfold extend
  split
  next empty =>
    subst boundary
    apply relativeTo_root
    intro begins
    exact plain (List.mem_of_mem_head? begins)
  next => exact relativeTo_append_dot boundary segment

theorem foldl_extend_segments {path : String} (rooted : IsRooted path) :
    (segments path).foldl extend "" = path := by
  rcases isSegment_or_eq_append path with ⟨plain, -⟩ | ⟨above, parted, -⟩
  · rw [segments_of_isSegment plain]
    rfl
  · have shorter : above.length < path.length := by
      have dot : ".".length = 1 := rfl
      rw [parted, String.length_append, String.length_append]
      omega
    rw [parted] at rooted
    rcases rooted.of_append_dot with ⟨nonempty, aboveRooted⟩
    have whole := foldl_extend_segments aboveRooted
    rw [parted, segments_append_dot, List.foldl_append, whole,
      segments_of_isSegment (isSegment_leaf path)]
    simp [extend, nonempty]
termination_by path.length

theorem boundariesFrom_cons_concat (boundary first : String) (rest : List String)
    (last : String) :
    boundariesFrom boundary (first :: (rest ++ [last])) =
      extend boundary first :: boundariesFrom (extend boundary first)
        (rest ++ [last]) := by
  cases rest <;> rfl

theorem boundariesFrom_concat (boundary first : String) (rest : List String)
    (last : String) :
    boundariesFrom boundary (first :: (rest ++ [last])) =
      boundariesFrom boundary (first :: rest) ++
      [(first :: rest).foldl extend boundary] := by
  induction rest generalizing boundary first with
  | nil => rfl
  | cons second rest induction =>
    rw [boundariesFrom_cons_concat, List.cons_append, induction]
    rfl

theorem dropLast_boundariesFrom (boundary first : String) (rest : List String)
    (last : String) :
    (boundariesFrom boundary (first :: (rest ++ [last]))).dropLast =
      boundariesFrom boundary (first :: rest) := by
  rw [boundariesFrom_concat, List.dropLast_concat]

theorem boundariesFrom_segments_concat {above : String} (rooted : IsRooted above)
    (below : String) :
    boundariesFrom "" (segments above ++ [below]) =
      boundariesFrom "" (segments above) ++ [above] := by
  have whole := foldl_extend_segments rooted
  cases cut : segments above with
  | nil => exact absurd cut (Text.split_ne_nil '.' above)
  | cons first rest =>
    rw [cut] at whole
    rw [List.cons_append, boundariesFrom_concat, whole]

theorem isRooted_extend {boundary segment : String} (rooted : IsRooted boundary)
    (plain : IsSegment segment) : IsRooted (extend boundary segment) := by
  unfold extend
  split
  next => exact fun begins => plain (List.mem_of_mem_head? begins)
  next nonempty =>
    unfold IsRooted at *
    cases characters : boundary.toList with
    | nil => exact absurd (String.toList_eq_nil_iff.mp characters) nonempty
    | cons c rest => simpa [characters] using rooted

theorem isRooted_of_mem_boundariesFrom {boundary path : String}
    {segments : List String} (rooted : IsRooted boundary)
    (plain : ∀ segment ∈ segments, IsSegment segment)
    (member : path ∈ boundariesFrom boundary segments) : IsRooted path := by
  induction segments generalizing boundary with
  | nil => cases member
  | cons first rest induction =>
    cases rest with
    | nil => cases member
    | cons second rest =>
      rw [List.forall_mem_cons] at plain
      have reached := isRooted_extend rooted plain.1
      rcases List.mem_cons.mp member with rfl | further
      · exact reached
      · exact induction reached plain.2 further

theorem bne_dot_of_isSegment {segment : String} (plain : IsSegment segment) :
    ∀ c ∈ segment.toList.reverse, (c != '.') = true := by
  intro c member
  rw [bne_iff_ne]
  rintro rfl
  exact plain (List.mem_reverse.mp member)

theorem leaf_of_isSegment {segment : String} (plain : IsSegment segment) :
    leaf segment = segment := by
  rw [leaf, List.takeWhile_eq_self_iff.mpr (bne_dot_of_isSegment plain),
    List.reverse_reverse, String.ofList_toList]

theorem leaf_append_dot (above : String) {below : String}
    (plain : IsSegment below) : leaf (above ++ "." ++ below) = below := by
  have parted : (above ++ "." ++ below).toList.reverse =
      below.toList.reverse ++ '.' :: above.toList.reverse := by simp
  rw [leaf, parted, List.takeWhile_append_of_pos (bne_dot_of_isSegment plain),
    List.takeWhile_cons_of_neg (by decide), List.append_nil, List.reverse_reverse,
    String.ofList_toList]

theorem leaf_extend {segment : String} (plain : IsSegment segment)
    (boundary : String) : leaf (extend boundary segment) = segment := by
  unfold extend
  split
  next => exact leaf_of_isSegment plain
  next => exact leaf_append_dot boundary plain

theorem map_leaf_boundariesFrom (boundary : String) {segments : List String}
    (plain : ∀ segment ∈ segments, IsSegment segment) (last : String) :
    (boundariesFrom boundary (segments ++ [last])).map leaf = segments := by
  induction segments generalizing boundary with
  | nil => rfl
  | cons first rest induction =>
    rw [List.forall_mem_cons] at plain
    rw [List.cons_append, boundariesFrom_cons_concat, List.map_cons,
      leaf_extend plain.1, induction _ plain.2]

/-! ## The path above -/

/-- In a path that does not begin with a dot, each boundary is the path right
above the next one, and the last boundary is the path right above the whole. -/
theorem parent?_eq_getLast?_boundaries {path : String} (rooted : IsRooted path)
    {before after : List String} {boundary : String}
    (cut : boundariesFrom "" (segments path) ++ [path] =
      before ++ boundary :: after) :
    parent? boundary = before.getLast? := by
  rcases isSegment_or_eq_append path with ⟨plain, none⟩ | ⟨above, parted, found⟩
  · rw [segments_of_isSegment plain] at cut
    cases before with
    | nil =>
      cases cut
      exact none
    | cons first rest => simp [boundariesFrom] at cut
  · have shorter : above.length < path.length := by
      have dot : ".".length = 1 := rfl
      rw [parted, String.length_append, String.length_append]
      omega
    rw [parted] at rooted
    rcases rooted.of_append_dot with ⟨nonempty, aboveRooted⟩
    have boundaries : boundariesFrom "" (segments path) = _ :=
      segments_eq_concat parted ▸ boundariesFrom_segments_concat
        aboveRooted (leaf path)
    -- Either the boundary is the whole path, or it comes with the path above.
    rcases List.eq_nil_or_concat after with rfl | ⟨further, last, rfl⟩
    · rw [boundaries] at cut
      obtain ⟨rfl, ⟨⟩⟩ := List.append_inj' cut rfl
      rw [found, if_neg nonempty, List.getLast?_concat]
    · rw [List.concat_eq_append, ← List.cons_append, ← List.append_assoc] at cut
      have shorterCut := (List.append_inj' cut rfl).1
      rw [boundaries] at shorterCut
      exact parent?_eq_getLast?_boundaries aboveRooted shorterCut
termination_by path.length

/-! ## Nesting -/

theorem nesting?_of_isSegment {path : String} (plain : IsSegment path)
    (isEmbedded : String → Bool) : nesting? isEmbedded path = none := by
  rw [nesting?, segments_of_isSegment plain]

theorem eq_of_nesting? {isEmbedded : String → Bool} {path : String}
    {nested : NestedPath} (found : nesting? isEmbedded path = some nested) :
    nested = ⟨path, boundariesFrom "" (segments path)⟩ := by
  unfold nesting? at found
  split at found
  next first second rest cut =>
    split at found
    · cases found
    · cases found
      rw [cut]
  next => cases found

theorem boundaries_of_nesting? {isEmbedded : String → Bool} {path : String}
    {nested : NestedPath} (found : nesting? isEmbedded path = some nested) :
    nested.boundaries = boundariesFrom "" (segments path) := by
  rw [eq_of_nesting? found]

/-- A nested path has a path above it, which may be the empty one. -/
theorem eq_append_of_nesting? {isEmbedded : String → Bool} {path : String}
    {nested : NestedPath} (found : nesting? isEmbedded path = some nested) :
    path = (parent? path).getD "" ++ "." ++ leaf path := by
  rcases isSegment_or_eq_append path with ⟨plain, -⟩ | ⟨above, parted, parent⟩
  · rw [nesting?_of_isSegment plain] at found
    cases found
  · have isAbove : (parent? path).getD "" = above := by
      rw [parent]
      split
      next empty => exact empty.symm
      next => rfl
    rw [isAbove]
    exact parted

end CriteriaQuery.Path
