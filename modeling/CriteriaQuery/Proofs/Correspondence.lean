import CriteriaQuery.Pieces
import Mathlib.Data.List.Forall2

namespace CriteriaQuery

/-! Lists whose items correspond one by one. They are cut at the same places,
and what can be said of the items of one can be said of the items of the
other. -/

variable {α β : Type} {Related : α → β → Prop} {isLeft : α → Bool}
  {isRight : β → Bool}

theorem pieces_forall₂
    (agree : ∀ left right, Related left right → isLeft left = isRight right)
    {lefts : List α} {rights : List β}
    (related : List.Forall₂ Related lefts rights) :
    List.Forall₂ (List.Forall₂ Related) (pieces isLeft lefts)
      (pieces isRight rights) := by
  induction related with
  | nil => exact .cons .nil .nil
  | @cons left right lefts rights head tail induction =>
    simp only [pieces, agree left right head]
    split
    · exact .cons .nil induction
    · generalize pieces isLeft lefts = leftPieces,
        pieces isRight rights = rightPieces
        at induction
      cases induction with
      | nil => exact .cons (.cons head .nil) .nil
      | cons first more => exact .cons (.cons head first) more

theorem runs_forall₂
    (agree : ∀ left right, Related left right → isLeft left = isRight right)
    {lefts : List α} {rights : List β}
    (related : List.Forall₂ Related lefts rights) :
    List.Forall₂ (List.Forall₂ Related) (runs isLeft lefts)
      (runs isRight rights) := by
  refine List.rel_filter (fun lefts rights pair => ?_)
    (pieces_forall₂ agree related)
  cases pair <;> simp

theorem forall₂_exists_iff {P : α → Prop} {Q : β → Prop}
    (agree : ∀ left right, Related left right → (P left ↔ Q right))
    {lefts : List α} {rights : List β}
    (related : List.Forall₂ Related lefts rights) :
    (∃ left ∈ lefts, P left) ↔ ∃ right ∈ rights, Q right := by
  induction related with
  | nil => simp
  | @cons left right lefts rights head tail induction =>
    simp [agree left right head, induction]

theorem forall₂_forall_iff {P : α → Prop} {Q : β → Prop}
    (agree : ∀ left right, Related left right → (P left ↔ Q right))
    {lefts : List α} {rights : List β}
    (related : List.Forall₂ Related lefts rights) :
    (∀ left ∈ lefts, P left) ↔ ∀ right ∈ rights, Q right := by
  induction related with
  | nil => simp
  | @cons left right lefts rights head tail induction =>
    simp [agree left right head, induction]

theorem exists_of_mem_left {lefts : List α} {rights : List β}
    (related : List.Forall₂ Related lefts rights) {left : α}
    (member : left ∈ lefts) : ∃ right ∈ rights, Related left right := by
  induction related with
  | nil => cases member
  | @cons first second lefts rights head tail induction =>
    rcases List.mem_cons.mp member with rfl | member
    · exact ⟨second, List.mem_cons_self, head⟩
    · rcases induction member with ⟨right, found, related⟩
      exact ⟨right, List.mem_cons_of_mem _ found, related⟩

theorem exists_of_mem_right {lefts : List α} {rights : List β}
    (related : List.Forall₂ Related lefts rights) {right : β}
    (member : right ∈ rights) : ∃ left ∈ lefts, Related left right :=
  exists_of_mem_left related.flip member

theorem forall₂_append_left_iff {left right : List α} {found : List β} :
    List.Forall₂ Related (left ++ right) found ↔
      ∃ lefts rights, List.Forall₂ Related left lefts ∧
        List.Forall₂ Related right rights ∧ found = lefts ++ rights := by
  constructor
  · induction left generalizing found with
    | nil => exact fun related => ⟨[], found, .nil, related, rfl⟩
    | cons first rest induction =>
      intro related
      rcases List.forall₂_cons_left_iff.mp related with
        ⟨part, more, head, tail, rfl⟩
      rcases induction tail with ⟨lefts, rights, relatedLeft, relatedRight, rfl⟩
      exact ⟨part :: lefts, rights, .cons head relatedLeft, relatedRight, rfl⟩
  · rintro ⟨lefts, rights, relatedLeft, relatedRight, rfl⟩
    exact List.rel_append relatedLeft relatedRight

theorem forall₂_head? {P : α → Prop} {Q : β → Prop}
    (agree : ∀ left right, Related left right → (P left ↔ Q right))
    {lefts : List α} {rights : List β}
    (related : List.Forall₂ Related lefts rights) :
    (∀ left ∈ lefts.head?, P left) ↔ ∀ right ∈ rights.head?, Q right := by
  cases related with
  | nil => simp
  | cons head tail => simp [agree _ _ head]

theorem forall₂_getLast? {P : α → Prop} {Q : β → Prop}
    (agree : ∀ left right, Related left right → (P left ↔ Q right))
    {lefts : List α} {rights : List β}
    (related : List.Forall₂ Related lefts rights) :
    (∀ left ∈ lefts.getLast?, P left) ↔ ∀ right ∈ rights.getLast?, Q right := by
  have reversed := forall₂_head? agree (List.rel_reverse related)
  simpa using reversed

/-- A traversal succeeds with the results of the items, one by one. -/
theorem mapM_eq_ok_iff {ε : Type} {read : α → Except ε β} {items : List α}
    {results : List β} :
    items.mapM read = .ok results ↔
      List.Forall₂ (fun item result => read item = .ok result) items results := by
  induction items generalizing results with
  | nil => simp [pure, Except.pure, eq_comm]
  | cons item rest induction =>
    rw [List.mapM_cons, List.forall₂_cons_left_iff]
    simp only [← induction]
    cases read item with
    | error error => simp [bind, Except.bind]
    | ok first =>
      cases rest.mapM read with
      | error error => simp [bind, Except.bind]
      | ok more => simp [bind, Except.bind, pure, Except.pure, eq_comm]

theorem eq_filterMap_of_mapM {ε : Type} {read : α → Except ε β} {items : List α}
    {results : List β} (done : items.mapM read = .ok results) :
    results = items.filterMap fun item => (read item).toOption := by
  have related := mapM_eq_ok_iff.mp done
  clear done
  induction related with
  | nil => rfl
  | @cons item result items results found _ induction =>
    have first : (read item).toOption = some result := by rw [found]; rfl
    rw [List.filterMap_cons, first, induction]

end CriteriaQuery
