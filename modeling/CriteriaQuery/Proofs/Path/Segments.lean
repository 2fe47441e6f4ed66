import CriteriaQuery.Path.Basic
import Mathlib.Data.List.TakeWhile

namespace CriteriaQuery

/-! A path is the text of its segments with dots between them. Its last dot
parts it into the path above and the leaf. -/

/-! ## Pieces -/

section Pieces

variable {α : Type} {isSeparator : α → Bool}

theorem pieces_append_separator {separator : α}
    (separates : isSeparator separator = true) (left right : List α) :
    pieces isSeparator (left ++ separator :: right) =
      pieces isSeparator left ++ pieces isSeparator right := by
  induction left with
  | nil => simp [pieces, separates]
  | cons item rest induction =>
    rw [List.cons_append, pieces, pieces, induction]
    split
    · rfl
    · cases cut : pieces isSeparator rest with
      | nil => exact absurd cut (pieces_ne_nil isSeparator rest)
      | cons piece more => rfl

theorem pieces_of_no_separator {items : List α}
    (none : ∀ item ∈ items, isSeparator item = false) :
    pieces isSeparator items = [items] := by
  induction items with
  | nil => rfl
  | cons item rest induction =>
    have head : isSeparator item = false := none item (by simp)
    have tail : pieces isSeparator rest = [rest] :=
      induction fun other member => none other (by simp [member])
    simp [pieces, head, tail]

end Pieces

/-! ## Segments -/

namespace Path

def IsSegment (text : String) : Prop := '.' ∉ text.toList

theorem isSegment_of_mem_segments {path segment : String}
    (member : segment ∈ segments path) : IsSegment segment := by
  rcases List.mem_map.mp member with ⟨piece, inside, rfl⟩
  intro dot
  have plain := (mem_of_mem_pieces inside '.' (by simpa using dot)).2
  simp at plain

theorem segments_of_isSegment {segment : String} (plain : IsSegment segment) :
    segments segment = [segment] := by
  rw [segments, Text.split, pieces_of_no_separator]
  · simp
  · intro c member
    simpa using fun equal : c = '.' => plain (equal ▸ member)

theorem segments_append_dot (above below : String) :
    segments (above ++ "." ++ below) = segments above ++ segments below := by
  have characters : (above ++ "." ++ below).toList =
      above.toList ++ '.' :: below.toList := by
    simp
  rw [segments, Text.split, characters, pieces_append_separator (by rfl),
    List.map_append]
  rfl

theorem isSegment_leaf (path : String) : IsSegment (leaf path) := by
  intro dot
  have kept := List.mem_takeWhile_imp (by simpa [leaf] using dot)
  simp at kept

/-- Either no dot stands in a path, or the last one parts it into the path above
and the leaf. -/
theorem isSegment_or_eq_append (path : String) :
    IsSegment path ∧ parent? path = none ∨
      ∃ above, path = above ++ "." ++ leaf path ∧
        parent? path = if above = "" then none else some above := by
  have whole :=
    List.takeWhile_append_dropWhile (p := (· != '.')) (l := path.toList.reverse)
  cases rest : path.toList.reverse.dropWhile (· != '.') with
  | nil =>
    left
    constructor
    · intro dot
      have kept := List.dropWhile_eq_nil_iff.mp rest '.' (by simpa using dot)
      simp at kept
    · rw [parent?, rest]
  | cons dot before =>
    have isDot : dot = '.' := by
      have head := List.head?_dropWhile_not (· != '.') path.toList.reverse
      simpa [rest] using head
    right
    refine ⟨String.ofList before.reverse, ?_, ?_⟩
    · apply String.toList_injective
      rw [← List.reverse_inj, ← whole, rest, isDot]
      simp [leaf]
    · rw [parent?, rest]
      cases before with
      | nil => simp
      | cons last before => simp

theorem segments_eq_concat {path above : String}
    (parted : path = above ++ "." ++ leaf path) :
    segments path = segments above ++ [leaf path] := by
  rw [parted, segments_append_dot, ← parted,
    segments_of_isSegment (isSegment_leaf path)]

theorem exists_segment {path : String} {c : Char} (member : c ∈ path.toList)
    (plain : c ≠ '.') : ∃ segment ∈ segments path, c ∈ segment.toList := by
  rcases isSegment_or_eq_append path with ⟨whole, -⟩ | ⟨above, parted, -⟩
  · rw [segments_of_isSegment whole]
    exact ⟨path, List.mem_singleton_self path, member⟩
  · have shorter : above.length < path.length := by
      have dot : ".".length = 1 := rfl
      rw [parted, String.length_append, String.length_append]
      omega
    rw [segments_eq_concat parted]
    have parts : c ∈ above.toList ∨ c ∈ (leaf path).toList := by
      rw [parted] at member
      simpa [plain] using member
    rcases parts with inside | last
    · obtain ⟨segment, isSegment, found⟩ := exists_segment inside plain
      exact ⟨segment, List.mem_append_left _ isSegment, found⟩
    · exact ⟨_, List.mem_append_right _ (List.mem_singleton_self _), last⟩
termination_by path.length

end Path

end CriteriaQuery
