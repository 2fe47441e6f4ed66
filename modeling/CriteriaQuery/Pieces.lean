namespace CriteriaQuery

/-! A list cut at its separators. Paths, comma separated values and groups of
criteria are all cut this way. -/

/-- The pieces of a list between separators, empty ones included. There is
always one piece more than there are separators. -/
def pieces {α : Type} (isSeparator : α → Bool) : List α → List (List α)
  | [] => [[]]
  | item :: rest =>
    if isSeparator item then [] :: pieces isSeparator rest
    else
      match pieces isSeparator rest with
      | [] => [[item]]
      | piece :: more => (item :: piece) :: more

def runs {α : Type} (isSeparator : α → Bool) (items : List α) : List (List α) :=
  (pieces isSeparator items).filter fun piece => !piece.isEmpty

example : pieces (· == 0) [0, 1, 2, 0, 3] = [[], [1, 2], [3]] := by decide
example : runs (· == 0) [0, 1, 2, 0, 0, 3, 0] = [[1, 2], [3]] := by decide

section

variable {α : Type} {isSeparator : α → Bool}

theorem pieces_ne_nil (isSeparator : α → Bool) (items : List α) :
    pieces isSeparator items ≠ [] := by
  cases items with
  | nil => simp [pieces]
  | cons item rest =>
    unfold pieces
    split
    · simp
    · split <;> simp

theorem pieces_of_separator {item : α} (separates : isSeparator item = true)
    (rest : List α) :
    pieces isSeparator (item :: rest) = [] :: pieces isSeparator rest := by
  rw [pieces, if_pos separates]

theorem pieces_of_plain {item : α} (plain : isSeparator item = false)
    (rest : List α) :
    ∃ piece more, pieces isSeparator rest = piece :: more ∧
      pieces isSeparator (item :: rest) = (item :: piece) :: more := by
  obtain ⟨piece, more, cut⟩ :=
    List.exists_cons_of_ne_nil (pieces_ne_nil isSeparator rest)
  refine ⟨piece, more, cut, ?_⟩
  rw [pieces, if_neg (by simp [plain]), cut]

theorem mem_of_mem_pieces {items piece : List α}
    (member : piece ∈ pieces isSeparator items) :
    ∀ item ∈ piece, item ∈ items ∧ isSeparator item = false := by
  induction items generalizing piece with
  | nil => simp_all [pieces]
  | cons first rest induction =>
    intro item inside
    cases separates : isSeparator first with
    | true =>
      rw [pieces_of_separator separates] at member
      rcases List.mem_cons.mp member with rfl | member
      · cases inside
      · exact (induction member item inside).imp_left (List.mem_cons_of_mem first)
    | false =>
      obtain ⟨next, more, cut, whole⟩ := pieces_of_plain separates rest
      rw [whole] at member
      rw [cut] at induction
      rcases List.mem_cons.mp member with rfl | member
      · rcases List.mem_cons.mp inside with rfl | inside
        · exact ⟨List.mem_cons_self, separates⟩
        · exact (induction List.mem_cons_self item inside).imp_left
            (List.mem_cons_of_mem first)
      · exact (induction (List.mem_cons_of_mem _ member) item inside).imp_left
          (List.mem_cons_of_mem first)

end

end CriteriaQuery
