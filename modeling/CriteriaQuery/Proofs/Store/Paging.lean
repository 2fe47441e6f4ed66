import CriteriaQuery.Proofs.Store.SortOrder

namespace CriteriaQuery

/-! The pages of a query are cut from one list of rows, which depends neither on
the page nor on its size. Without `distinct` these are the matching documents in
the order of the sort keys, where documents that compare equal stand as they
were inserted. -/

/-! ## Stable sorting -/

/-- Items that may stand on either side of each other keep their places among
themselves. -/
theorem filter_mergeSort {α : Type} {before : α → α → Bool}
    (trans : ∀ left middle right,
      before left middle = true → before middle right = true →
      before left right = true)
    (total : ∀ left right, (before left right || before right left) = true)
    {isTied : α → Bool}
    (tied : ∀ left right,
      isTied left = true → isTied right = true → before left right = true)
    (items : List α) :
    (items.mergeSort before).filter isTied = items.filter isTied := by
  have inOrder : (items.filter isTied).Pairwise fun left right =>
      before left right = true := by
    apply List.pairwise_of_forall_mem_list
    intro left leftMember right rightMember
    exact tied left right (List.mem_filter.mp leftMember).2
      (List.mem_filter.mp rightMember).2
  have kept : (items.filter isTied).Sublist (items.mergeSort before) :=
    List.sublist_mergeSort trans total inOrder List.filter_sublist
  have inside : (items.filter isTied).Sublist
      ((items.mergeSort before).filter isTied) := by
    simpa using kept.filter isTied
  have sameLength : (items.filter isTied).length =
      ((items.mergeSort before).filter isTied).length :=
    ((List.mergeSort_perm items before).filter isTied).length_eq.symm
  exact (inside.eq_of_length sameLength).symm

/-! ## Pages -/

theorem flatMap_range_drop_take {α : Type} (rows : List α) (size pages : Nat) :
    ((List.range pages).flatMap fun page => (rows.drop (page * size)).take size) =
      rows.take (pages * size) := by
  induction pages with
  | zero => simp
  | succ pages induction =>
    rw [List.range_succ, List.flatMap_append, induction,
      Nat.succ_mul, List.take_add]
    simp

def DocumentQuery.keep (query : DocumentQuery) (document : Json) : Json :=
  if (query.projection.map SelectPath.same).isEmpty then document
  else document.project (query.projection.map SelectPath.same)

namespace Collection

variable {documents : Collection} {query : DocumentQuery}

theorem rows_of_not_distinct (plain : query.distinct = false) :
    documents.rows query = (documents.matching query).map query.keep := by
  unfold rows
  rw [plain]
  rfl

theorem count_eq_length_rows (documents : Collection) (query : DocumentQuery) :
    documents.count query = (documents.rows query).length := by
  unfold count
  cases plain : query.distinct with
  | true => rfl
  | false =>
    rw [rows_of_not_distinct plain, List.length_map, matching,
      List.length_mergeSort]
    rfl

/-- The matching documents, each of them as often as it is stored, in the order
of the sort keys. Those that compare equal with some document stand as they were
inserted. -/
structure IsArrangement (documents : Collection) (query : DocumentQuery)
    (arranged : List Json) : Prop where
  perm : arranged.Perm (documents.filter query.filter.holds)
  ordered : arranged.Pairwise fun earlier later =>
    DocumentSort.orderAll query.sort earlier later ≠ .gt
  stable (document : Json) :
    (arranged.filter fun other =>
      DocumentSort.orderAll query.sort document other == .eq) =
      (documents.filter query.filter.holds).filter fun other =>
        DocumentSort.orderAll query.sort document other == .eq

theorem isArrangement_matching (documents : Collection) (query : DocumentQuery) :
    documents.IsArrangement query (documents.matching query) := by
  have trans := DocumentSort.inOrder_trans query.sort
  have total := DocumentSort.inOrder_total query.sort
  constructor
  · exact List.mergeSort_perm _ _
  · have sorted :=
      List.pairwise_mergeSort trans total (documents.filter query.filter.holds)
    exact sorted.imp fun inOrder => by simpa [DocumentSort.inOrder] using inOrder
  · intro document
    apply filter_mergeSort trans total
    intro left right leftTied rightTied
    rw [beq_iff_eq] at leftTied rightTied
    have same : DocumentSort.orderAll query.sort left right = .eq :=
      Std.TransCmp.eq_trans (Std.OrientedCmp.eq_symm leftTied) rightTied
    rw [DocumentSort.inOrder, same]
    rfl

/-- The pages of a query put one after the other are its rows, whatever their
size, and each page reports how many rows there are. -/
theorem pages_partition_rows (documents : Collection) (query : DocumentQuery) :
    ∃ rows : List Json,
      (∀ size,
        (∀ page, (documents.find
          { query with skip := page * size, limit := size }).total =
            rows.length) ∧
        ∀ pages, rows.length ≤ pages * size →
          ((List.range pages).flatMap fun page =>
            (documents.find
              { query with skip := page * size, limit := size }).rows) = rows) ∧
      documents.count query = rows.length ∧
      (query.distinct = false → ∃ arranged,
        documents.IsArrangement query arranged ∧
        rows = arranged.map query.keep) := by
  refine ⟨documents.rows query, ?_, count_eq_length_rows documents query, ?_⟩
  · intro size
    constructor
    · intro page
      rfl
    · intro pages enough
      have concatenated :=
        flatMap_range_drop_take (documents.rows query) size pages
      rw [List.take_of_length_le enough] at concatenated
      exact concatenated
  · intro plain
    exact ⟨documents.matching query, isArrangement_matching documents query,
      rows_of_not_distinct plain⟩

def ages : Collection :=
  [.object [("age", .string "30"), ("name", .string "Ann")],
    .object [("age", .string "20"), ("name", .string "Bob")],
    .object [("age", .string "30"), ("name", .string "Cid")],
    .object [("name", .string "Eve")]]

def namesByAge : DocumentQuery :=
  ⟨"people", .present "age", [⟨"age", .descending⟩], 0, 20, ["name"], false⟩

theorem two_pages_of_names : ∃ arranged, ages.IsArrangement namesByAge arranged ∧
    (ages.find { namesByAge with skip := 0, limit := 2 }).rows ++
      (ages.find { namesByAge with skip := 2, limit := 2 }).rows =
        arranged.map namesByAge.keep := by
  rcases pages_partition_rows ages namesByAge with ⟨rows, paged, counted, sorted⟩
  have three : rows.length = 3 := counted.symm.trans (by decide +kernel)
  rcases sorted rfl with ⟨arranged, isArrangement, rfl⟩
  have concatenated := (paged 2).2 2 (by omega)
  exact ⟨arranged, isArrangement, by simpa [List.range_succ] using concatenated⟩

end Collection

end CriteriaQuery
