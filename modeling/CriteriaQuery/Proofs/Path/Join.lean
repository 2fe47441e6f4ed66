import CriteriaQuery.Proofs.Path.Prefix

namespace CriteriaQuery

/-! Names joined to a path. Empty names leave no trace in it and names with dots
become several segments, so different lists of names can be joined to one path:
all those that are spelled alike. -/

namespace Path

theorem join_of_name {name : String} (named : name ≠ "") {path : String}
    (below : path ≠ "") : join path name = path ++ "." ++ name := by
  rw [join, if_neg below, if_neg named]

theorem join_empty (path : String) : join path "" = path := by
  rw [join, if_pos rfl]
  split
  next empty => exact empty.symm
  next => rfl

theorem join_ne_empty {name : String} (named : name ≠ "") (path : String) :
    join path name ≠ "" := by
  by_cases top : path = ""
  · rwa [join, if_pos top]
  · rw [join_of_name named top]
    intro empty
    have lengths := congrArg String.length empty
    simp at lengths

def spelled (names : List String) : List String :=
  (names.filter fun name => name ≠ "").flatMap segments

theorem spelled_empty_cons (names : List String) :
    spelled ("" :: names) = spelled names := rfl

theorem spelled_cons {name : String} (named : name ≠ "") (names : List String) :
    spelled (name :: names) = segments name ++ spelled names := by
  simp [spelled, named]

theorem spelled_of_plain {names : List String}
    (plain : ∀ name ∈ names, name ≠ "" ∧ IsSegment name) :
    spelled names = names := by
  induction names with
  | nil => rfl
  | cons name rest induction =>
    rw [List.forall_mem_cons] at plain
    rw [spelled_cons plain.1.1, segments_of_isSegment plain.1.2,
      induction plain.2, List.singleton_append]

theorem segments_foldl_join_of_ne {path : String} (below : path ≠ "")
    (names : List String) :
    segments (names.foldl join path) = segments path ++ spelled names := by
  induction names generalizing path with
  | nil => simp [spelled]
  | cons name rest induction =>
    rw [List.foldl_cons]
    by_cases named : name = ""
    · subst named
      rw [join_empty, induction below, spelled_empty_cons]
    · rw [induction (join_ne_empty named path), join_of_name named below,
        segments_append_dot, spelled_cons named, List.append_assoc]

theorem foldl_join_ne_empty {path : String} (below : path ≠ "")
    (names : List String) : names.foldl join path ≠ "" := by
  induction names generalizing path with
  | nil => exact below
  | cons name rest induction =>
    apply induction
    by_cases named : name = ""
    · rwa [named, join_empty]
    · exact join_ne_empty named path

/-- Names that spell nothing make the empty path. Of other names the segments of
the path are what they spell. -/
theorem foldl_join_cases (names : List String) :
    spelled names = [] ∧ names.foldl join "" = "" ∨
      names.foldl join "" ≠ "" ∧
      segments (names.foldl join "") = spelled names := by
  induction names with
  | nil => exact .inl ⟨rfl, rfl⟩
  | cons name rest induction =>
    rw [List.foldl_cons, join, if_pos rfl]
    by_cases named : name = ""
    · subst named
      exact induction
    · right
      rw [segments_foldl_join_of_ne named, spelled_cons named]
      exact ⟨foldl_join_ne_empty named rest, rfl⟩

theorem foldl_join_eq_iff (names others : List String) :
    names.foldl join "" = others.foldl join "" ↔
    spelled names = spelled others := by
  rcases foldl_join_cases names with ⟨spelling, path⟩ | ⟨path, spelling⟩ <;>
    rcases foldl_join_cases others with
      ⟨otherSpelling, other⟩ | ⟨other, otherSpelling⟩
  · simp [spelling, otherSpelling, path, other]
  · have some : spelled others ≠ [] := otherSpelling ▸ segments_ne_nil _
    simp [spelling, path, Ne.symm other, Ne.symm some]
  · have some : spelled names ≠ [] := spelling ▸ segments_ne_nil _
    simp [otherSpelling, other, path, some]
  · rw [← spelling, ← otherSpelling]
    exact ⟨congrArg segments, segments_injective⟩

theorem segments_foldl_join {names : List String} (some : names ≠ [])
    (plain : ∀ name ∈ names, name ≠ "" ∧ IsSegment name) :
    segments (names.foldl join "") = names := by
  have spelling := spelled_of_plain plain
  rcases foldl_join_cases names with ⟨none, -⟩ | ⟨-, segments⟩
  · exact absurd (spelling.symm.trans none) some
  · exact segments.trans spelling

end Path

end CriteriaQuery
