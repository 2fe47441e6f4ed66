import CriteriaQuery.Proofs.Path.Boundaries
import CriteriaQuery.Proofs.Path.Cache
import CriteriaQuery.Proofs.Path.Prefix
import Mathlib.Data.List.Chain

namespace CriteriaQuery

/-! What stands before the dots of a path. These are the boundaries that the path
crosses, unless the path above begins with a dot: boundaries grow from the empty
one, behind which no dot is put. -/

namespace Path

def dots (path : String) : Nat := path.toList.count '.'

def IsBeforeDot (path : String) (number : Nat) (start : String) : Prop :=
  Extends path start ∧ dots start = number

theorem dots_append_dot (above below : String) :
    dots (above ++ "." ++ below) = dots above + 1 + dots below := by
  simp only [dots, String.toList_append, List.count_append]
  rfl

theorem dots_eq_zero_iff {path : String} : dots path = 0 ↔ IsSegment path :=
  List.count_eq_zero

theorem length_segments (path : String) :
    (segments path).length = dots path + 1 := by
  rcases isSegment_or_eq_append path with ⟨plain, -⟩ | ⟨above, parted, -⟩
  · rw [segments_of_isSegment plain, dots_eq_zero_iff.mpr plain]
    rfl
  · have shorter : above.length < path.length := by
      have dot : ".".length = 1 := rfl
      rw [parted, String.length_append, String.length_append]
      omega
    have whole := length_segments above
    have counted : dots path = dots above + 1 := by
      have leafPlain : dots (leaf path) = 0 :=
        dots_eq_zero_iff.mpr (isSegment_leaf path)
      rw [parted, dots_append_dot, leafPlain, Nat.add_zero]
    rw [segments_eq_concat parted, List.length_append, whole, counted]
    rfl
termination_by path.length

theorem length_boundariesFrom (boundary : String) (segments : List String) :
    (boundariesFrom boundary segments).length = segments.length - 1 := by
  induction segments generalizing boundary with
  | nil => rfl
  | cons first rest induction =>
    cases rest with
    | nil => rfl
    | cons second rest =>
      change
        (boundariesFrom (extend boundary first) (second :: rest)).length + 1 = _
      rw [induction]
      rfl

theorem extends_append_dot_iff {above below start : String}
    (plain : IsSegment below) :
    Extends (above ++ "." ++ below) start ↔
    start = above ∨ Extends above start := by
  constructor
  · rintro ⟨rest, same⟩
    have characters : above.toList ++ '.' :: below.toList =
        start.toList ++ '.' :: rest.toList := by
      simpa using congrArg String.toList same
    rcases List.append_eq_append_iff.mp characters with ⟨more, isStart, isBelow⟩ |
      ⟨more, isAbove, isRest⟩
    · cases more with
      | nil =>
        left
        exact String.toList_injective (by simpa using isStart)
      | cons c more =>
        obtain ⟨-, isBelow⟩ := List.cons.inj isBelow
        refine absurd ?_ plain
        rw [isBelow]
        exact List.mem_append_right _ List.mem_cons_self
    · cases more with
      | nil =>
        left
        exact String.toList_injective (by simpa using isAbove.symm)
      | cons c more =>
        right
        obtain ⟨rfl, -⟩ := List.cons.inj isRest
        refine ⟨String.ofList more, String.toList_injective ?_⟩
        simpa using isAbove
  · rintro (rfl | ⟨rest, rfl⟩)
    · exact ⟨below, rfl⟩
    · exact ⟨rest ++ "." ++ below, by simp only [String.append_assoc]⟩

/-- If the path above does not begin with a dot, the boundaries are what stands
before the dots, in their order. -/
theorem getElem?_boundariesFrom_eq_some_iff {above below : String}
    (rooted : IsRooted above) (plain : IsSegment below) (number : Nat)
    (start : String) :
    (boundariesFrom "" (segments above ++ [below]))[number]? = some start ↔
      IsBeforeDot (above ++ "." ++ below) number start := by
  have further : (boundariesFrom "" (segments above))[number]? = some start ↔
      IsBeforeDot above number start := by
    rcases isSegment_or_eq_append above with ⟨single, -⟩ | ⟨outer, parted, -⟩
    · rw [segments_of_isSegment single]
      constructor
      · nofun
      · rintro ⟨⟨rest, rfl⟩, -⟩
        exact absurd (by simp) single
    · have shorter : outer.length < above.length := by
        have dot : ".".length = 1 := rfl
        rw [parted, String.length_append, String.length_append]
        omega
      have outerRooted : IsRooted outer := by
        rw [parted] at rooted
        exact rooted.of_append_dot.2
      have inner := getElem?_boundariesFrom_eq_some_iff outerRooted
        (isSegment_leaf above) number start
      rwa [← parted, ← segments_eq_concat parted] at inner
  have count : (boundariesFrom "" (segments above)).length = dots above := by
    rw [length_boundariesFrom, length_segments, Nat.add_sub_cancel]
  rw [boundariesFrom_segments_concat rooted, IsBeforeDot,
    extends_append_dot_iff plain, or_and_right, ← IsBeforeDot, ← further]
  by_cases inside : number < (boundariesFrom "" (segments above)).length
  · rw [List.getElem?_append_left inside, or_iff_right]
    rintro ⟨rfl, isNumber⟩
    omega
  · rw [List.getElem?_append_right (Nat.le_of_not_lt inside),
      List.getElem?_singleton, List.getElem?_eq_none (Nat.le_of_not_lt inside)]
    constructor
    · intro last
      split at last
      next isLast =>
        cases last
        exact .inl ⟨rfl, by omega⟩
      next => cases last
    · rintro (⟨rfl, isNumber⟩ | found)
      · rw [if_pos (by omega)]
      · cases found
termination_by above.length

theorem isChain_boundariesFrom (boundary : String) {segments : List String}
    (plain : ∀ segment ∈ segments, IsSegment segment) :
    (boundary :: boundariesFrom boundary segments).IsChain fun before next =>
      IsSegment (relativeTo next before) := by
  induction segments generalizing boundary with
  | nil => exact .singleton boundary
  | cons first rest induction =>
    rw [List.forall_mem_cons] at plain
    cases rest with
    | nil => exact .singleton boundary
    | cons second rest =>
      refine .cons_cons ?_ (induction (extend boundary first) plain.2)
      rw [relativeTo_extend plain.1]
      exact plain.1

theorem nesting?_eq_none_iff {isEmbedded : String → Bool} {path : String} :
    nesting? isEmbedded path = none ↔
      IsSegment path ∨ startsEmbedded isEmbedded path = true := by
  rcases isSegment_or_eq_append path with ⟨plain, -⟩ | ⟨above, parted, -⟩
  · exact iff_of_true (nesting?_of_isSegment plain isEmbedded) (.inl plain)
  · have dotted : ¬ IsSegment path := by
      intro plain
      rw [parted] at plain
      exact plain (by simp)
    have cut := segments_eq_concat parted
    rw [or_iff_right dotted, nesting?, startsEmbedded]
    cases start : segments above with
    | nil => exact absurd start (segments_ne_nil above)
    | cons first rest =>
      rw [start] at cut
      rw [cut]
      cases rest with
      | nil => simp
      | cons second rest => simp

/-- A path is relative to its last boundary by its leaf, if the path above does
not begin with a dot. -/
theorem relativeTo_last_boundary_iff {above below innermost : String}
    (plain : IsSegment below)
    (last : (boundariesFrom "" (segments above ++ [below])).getLast? =
      some innermost) :
    relativeTo (above ++ "." ++ below) innermost = below ↔ IsRooted above := by
  constructor
  · intro relative
    have rooted : IsRooted innermost := by
      refine isRooted_of_mem_boundariesFrom (by decide) ?_
        (List.mem_of_getLast? last)
      rw [List.forall_mem_append, List.forall_mem_singleton]
      exact ⟨fun segment => isSegment_of_mem_segments, plain⟩
    unfold relativeTo at relative
    split at relative
    next rest found =>
      rw [Text.after?_eq_some_iff] at found
      have isRest : rest = below.toList := by
        rw [← relative, String.toList_ofList]
      have whole : above.toList ++ '.' :: below.toList =
          innermost.toList ++ '.' :: below.toList := by
        rw [← isRest, ← found, isRest]
        simp
      rwa [String.toList_injective (List.append_cancel_right whole)]
    next =>
      rw [← relative] at plain
      exact absurd (by simp) plain
  · intro rooted
    rw [boundariesFrom_segments_concat rooted, List.getLast?_concat,
      Option.some.injEq] at last
    rw [← last, relativeTo_append_dot]

/-! ## Resolved paths -/

open PathResolver in
/-- Whatever a resolver was asked before: a path crosses no boundary exactly if
it has no dot or begins in an embedded object. Any other one crosses as many
boundaries as it has dots, and each is one segment as seen from the one before
it. They are the parts before the dots, and the path is seen from the last one
by its leaf, exactly if the path above does not begin with a dot. -/
theorem resolve_beforeDots_iff (isEmbedded : String → Bool) (capacity : Nat)
    (earlier : List String) (path : String) :
    let found :=
      (((withCapacity isEmbedded capacity).after earlier).resolve path).1
    (found = none ↔ '.' ∉ path.toList ∨ startsEmbedded isEmbedded path = true) ∧
    ∀ nested, found = some nested →
      nested.fullPath = path ∧
      nested.boundaries.length = path.toList.count '.' ∧
      (nested.boundaries.IsChain fun boundary next =>
        '.' ∉ (relativeTo next boundary).toList) ∧
      ((∀ number start,
          nested.boundaries[number]? = some start ↔
            IsBeforeDot path number start) ↔
        IsRooted ((parent? path).getD "")) ∧
      ∃ innermost, nested.innermost? = some innermost ∧
        (relativeTo path innermost = leaf path ↔
          IsRooted ((parent? path).getD "")) := by
  intro found
  have answer : found = nesting? isEmbedded path :=
    resolve_after_withCapacity isEmbedded capacity earlier path
  rw [answer]
  refine ⟨nesting?_eq_none_iff, fun nested isNested => ?_⟩
  have crossed := boundaries_of_nesting? isNested
  have parted := eq_append_of_nesting? isNested
  generalize (parent? path).getD "" = above at parted ⊢
  have cut := segments_eq_concat parted
  have plain : ∀ segment ∈ segments path, IsSegment segment :=
    fun segment => isSegment_of_mem_segments
  refine ⟨by rw [eq_of_nesting? isNested], ?_, ?_,
    ⟨fun exactly => ?_, fun rooted number start => ?_⟩, ?_⟩
  · rw [crossed, length_boundariesFrom, length_segments]
    rfl
  · rw [crossed]
    exact (isChain_boundariesFrom "" plain).tail
  · -- The part before the last dot is a boundary, and no boundary begins with a dot.
    have last : IsBeforeDot path (dots above) above := ⟨⟨leaf path, parted⟩, rfl⟩
    have isBoundary := List.mem_of_getElem? ((exactly _ _).mpr last)
    rw [crossed] at isBoundary
    exact isRooted_of_mem_boundariesFrom (by decide) plain isBoundary
  · have before :=
      getElem?_boundariesFrom_eq_some_iff rooted
        (isSegment_leaf path) number start
    rwa [← parted, ← cut, ← crossed] at before
  · obtain ⟨innermost, last⟩ :
        ∃ innermost,
          (boundariesFrom "" (segments above ++ [leaf path])).getLast? =
          some innermost := by
      cases start : segments above with
      | nil => exact absurd start (segments_ne_nil above)
      | cons first rest =>
        rw [List.cons_append, boundariesFrom_concat]
        exact ⟨_, List.getLast?_concat⟩
    have relative := relativeTo_last_boundary_iff (isSegment_leaf path) last
    rw [← parted] at relative
    rw [NestedPath.innermost?, crossed, cut]
    exact ⟨innermost, last, relative⟩

open PathResolver in
/-- A dot at the beginning is lost on the way: the second boundary is no part of
the path, and the path does not lie under it. -/
theorem resolve_leading_dot :
    ∃ nested,
      (((withCapacity (fun _ => false) 1).after [".a.b", "a"]).resolve
        ".a.b").1 = some nested ∧
      nested.boundaries = ["", "a"] ∧
      ¬ (∀ number start, nested.boundaries[number]? = some start ↔
        IsBeforeDot ".a.b" number start) ∧
      ∃ innermost, nested.innermost? = some innermost ∧
        relativeTo ".a.b" innermost ≠ leaf ".a.b" := by
  have found :
      (((withCapacity (fun _ => false) 1).after [".a.b", "a"]).resolve ".a.b").1 =
      some ⟨".a.b", ["", "a"]⟩ := by decide
  have begins : ¬ IsRooted ((parent? ".a.b").getD "") := by decide
  obtain ⟨-, exactly⟩ :=
    resolve_beforeDots_iff (fun _ => false) 1 [".a.b", "a"] ".a.b"
  obtain ⟨-, -, -, parts, innermost, last, relative⟩ := exactly _ found
  exact ⟨_, found, rfl, mt parts.mp begins, innermost, last,
    mt relative.mp begins⟩

end Path

end CriteriaQuery
