import CriteriaQuery.Plan.Basic
import Mathlib.Order.Bounds.Basic

namespace CriteriaQuery

/-! The page that a query settles on, and which pages have rows. With valid
settings only a query that asks for pages without a size has no page. Pages of
every other query have room for a row, and they are numbered from zero through
all the rows. -/

/-! ## Sizes -/

theorem Config.paging_of_valid {config : Config} (valid : config.fault? = none) :
    config.paging.defaultSize ≠ 0 ∧
      ∀ max, config.paging.maxSize = some max →
      config.paging.defaultSize ≤ max := by
  unfold fault? at valid
  split at valid
  · cases valid
  next nonzero =>
    refine ⟨nonzero, ?_⟩
    intro max limited
    by_contra below
    simp [maxBelowDefault?, limited, UInt32.not_le.mp below] at valid

def Paging.capped (paging : Paging) (size : Nat) : Nat :=
  paging.maxSize.elim size fun max => min size max.toNat

theorem Config.capped_pos {config : Config} (valid : config.fault? = none)
    {size : Nat} (positive : 0 < size) : 0 < config.paging.capped size := by
  rcases paging_of_valid valid with ⟨nonzero, limit⟩
  unfold Paging.capped
  cases limited : config.paging.maxSize with
  | none => exact positive
  | some max =>
    have atLeast : config.paging.defaultSize.toNat ≤ max.toNat :=
      limit max limited
    have some : config.paging.defaultSize.toNat ≠ 0 := fun zero =>
      nonzero (UInt32.toNat_inj.mp zero)
    simp only [Option.elim_some]
    omega

structure PageRequest.IsFor (paging : Paging) (query : Query)
    (request : PageRequest) : Prop where
  number : request.number = query.pageNumber.getD paging.defaultNumber
  size : request.size.toNat = paging.capped
    (query.pageSize.getD paging.defaultSize).toNat
  size_pos : 0 < request.size.toNat
  /-- The rows before the page can be counted in 64 bits. -/
  offset_lt : request.offset < UInt64.size

theorem PageRequest.offset_lt_size (request : PageRequest) :
    request.offset < UInt64.size := by
  have number : request.number.toNat < UInt32.size := request.number.toNat_lt_size
  have size : request.size.toNat < UInt32.size := request.size.toNat_lt_size
  calc
    request.number.toNat * request.size.toNat < UInt32.size * UInt32.size :=
      Nat.mul_lt_mul'' number size
    _ = UInt64.size := rfl

namespace Plan

variable {paging : Paging} {query : Query}

theorem pageOf_eq_error (none : query.pageSize.getD paging.defaultSize = 0) :
    pageOf paging query = .error .zeroPageSize := by
  simp only [pageOf, none, if_true]

theorem exists_pageOf_eq_ok (some : query.pageSize.getD paging.defaultSize ≠ 0) :
    ∃ page, pageOf paging query = .ok page ∧
      page.number = query.pageNumber.getD paging.defaultNumber ∧
      page.size.toNat = paging.capped
        (query.pageSize.getD paging.defaultSize).toNat := by
  simp only [pageOf, some, if_false, Paging.capped]
  cases paging.maxSize with
  | none => exact ⟨_, rfl, rfl, rfl⟩
  | some max =>
    refine ⟨_, rfl, rfl, ?_⟩
    simp only [Option.elim_some]
    split
    next below =>
      rw [UInt32.lt_iff_toNat_lt] at below
      omega
    next above =>
      rw [UInt32.lt_iff_toNat_lt] at above
      omega

end Plan

/-! ## Pages with rows -/

namespace Page

variable {α β : Type}

def rowsAt (size number : Nat) (rows : List α) : List α :=
  (rows.drop (number * size)).take size

theorem rowsAt_eq_nil_iff {size : Nat} (positive : 0 < size) (number : Nat)
    (rows : List α) :
    rowsAt size number rows = [] ↔ rows.length ≤ number * size := by
  rw [rowsAt, List.take_eq_nil_iff, List.drop_eq_nil_iff]
  omega

theorem totalPages_le_iff {page : Page α}
    (positive : 0 < page.request.size.toNat) (pages : Nat) :
    page.totalPages ≤ pages ↔ page.total ≤ pages * page.request.size.toNat := by
  have nonzero : page.request.size.toNat ≠ 0 := by omega
  simp only [totalPages, nonzero, if_false]
  rw [Nat.div_le_iff_le_mul_add_pred positive, Nat.mul_comm]
  omega

structure Counts (page : Page α) (rows : List β) : Prop where
  /-- There are as few pages as have room for all rows. -/
  least : IsLeast {pages | page.total ≤ pages * page.request.size.toNat}
    page.totalPages
  rows_iff : rowsAt page.request.size.toNat page.request.number.toNat rows ≠ [] ↔
    page.request.number.toNat < page.totalPages
  isLast_iff : page.isLast = true ↔ ∀ later > page.request.number.toNat,
    rowsAt page.request.size.toNat later rows = []

theorem counts {page : Page α} (positive : 0 < page.request.size.toNat)
    {rows : List β} (all : rows.length = page.total) : page.Counts rows := by
  have empty_iff (number : Nat) :
      rowsAt page.request.size.toNat number rows = [] ↔
      page.totalPages ≤ number := by
    rw [rowsAt_eq_nil_iff positive, all, totalPages_le_iff positive]
  constructor
  · constructor
    · exact (totalPages_le_iff positive _).mp (Nat.le_refl _)
    · intro pages enough
      exact (totalPages_le_iff positive pages).mpr enough
  · rw [Ne, empty_iff]
    omega
  · simp only [isLast, decide_eq_true_eq, empty_iff]
    constructor
    · intro through later after
      omega
    · intro none
      exact none _ (Nat.lt_succ_self _)

end Page

/-! ## Settled pages -/

namespace Plan

variable {config : Config} {query : Query} {filter : Predicate}

theorem ofQuery_of_lowered
    (lowered : Predicate.ofCriteria config.schema query.criteria = .ok filter) :
    ofQuery config.schema config.paging query =
      (pageOf config.paging query).map fun page =>
        ⟨filter, sortKeys config.schema query.sort, page, query.select,
            query.distinct⟩ := by
  simp only [ofQuery, lowered, bind, Except.bind, Except.mapError]
  cases pageOf config.paging query <;> rfl

theorem size_eq_zero_iff (valid : config.fault? = none) (query : Query) :
    query.pageSize.getD config.paging.defaultSize = 0 ↔
    query.pageSize = some 0 := by
  cases query.pageSize with
  | none => simp [(Config.paging_of_valid valid).1]
  | some size => simp

/-- With valid settings a query whose criteria can be lowered has no plan
exactly when it asks for pages without a size, and the pages of its plan count
the rows rightly. -/
theorem settles_page_of_valid (valid : config.fault? = none)
    (lowered : Predicate.ofCriteria config.schema query.criteria = .ok filter) :
    (ofQuery config.schema config.paging query = .error .zeroPageSize ↔
        query.pageSize = some 0) ∧
      (query.pageSize ≠ some 0 → ∃ plan,
        ofQuery config.schema config.paging query = .ok plan ∧
        plan.page.IsFor config.paging query ∧
        ∀ {α β : Type} (page : Page α) (rows : List β), page.request = plan.page →
          rows.length = page.total → page.Counts rows) := by
  have size_iff := size_eq_zero_iff valid query
  rw [ofQuery_of_lowered lowered]
  by_cases none : query.pageSize = some 0
  · rw [pageOf_eq_error (size_iff.mpr none)]
    exact ⟨⟨fun _ => none, fun _ => rfl⟩, fun asked => absurd none asked⟩
  · rcases exists_pageOf_eq_ok (size_iff.not.mpr none) with
      ⟨page, settled, number, size⟩
    have positive : 0 < page.size.toNat := by
      rw [size]
      apply Config.capped_pos valid
      apply Nat.pos_of_ne_zero
      intro zero
      exact none (size_iff.mp (UInt32.toNat_inj.mp zero))
    rw [settled]
    constructor
    · constructor
      · intro failed
        cases failed
      · exact fun asked => absurd asked none
    · intro _
      refine ⟨_, rfl, ⟨number, size, positive, page.offset_lt_size⟩, ?_⟩
      intro α β shown rows request all
      have room : 0 < shown.request.size.toNat := by
        rw [request]
        exact positive
      exact Page.counts room all

def atMostFifty : Config := { Config.default with paging := ⟨20, 0, some 50⟩ }

def aThousand : Query := Query.empty.setPage 3 1000

def unsized : Query := Query.empty.setPage 3 0

theorem fifty_of_aThousand :
    (∃ plan, ofQuery atMostFifty.schema atMostFifty.paging aThousand = .ok plan ∧
      plan.page.size.toNat = 50 ∧
      (⟨[], 151, plan.page⟩ : Page Json).Counts (List.range 151)) ∧
    ofQuery atMostFifty.schema atMostFifty.paging unsized =
      .error .zeroPageSize := by
  have valid : atMostFifty.fault? = none := by decide +kernel
  have lowered : Predicate.ofCriteria atMostFifty.schema aThousand.criteria =
      .ok .always :=
    Predicate.ofCriteria_nil _
  have loweredNone : Predicate.ofCriteria atMostFifty.schema unsized.criteria =
      .ok .always :=
    Predicate.ofCriteria_nil _
  rcases settles_page_of_valid valid lowered with ⟨-, planned⟩
  rcases planned (by decide) with ⟨plan, found, settled, pages⟩
  refine ⟨⟨plan, found, settled.size, pages _ _ rfl (by simp)⟩, ?_⟩
  exact (settles_page_of_valid valid loweredNone).1.mpr rfl

end Plan

end CriteriaQuery
