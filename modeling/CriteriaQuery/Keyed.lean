namespace CriteriaQuery

/-! Values under text keys. Keys stand in strictly ascending order, so that
equal contents are equal lists. -/

abbrev Keyed (α : Type) := List (String × α)

namespace Keyed

variable {α : Type}

def Ordered (entries : Keyed α) : Prop :=
  entries.Pairwise fun left right => compare left.1 right.1 = .lt

def get? (key : String) : Keyed α → Option α
  | [] => none
  | (name, value) :: rest => if name = key then some value else get? key rest

def set (key : String) (value : α) : Keyed α → Keyed α
  | [] => [(key, value)]
  | (name, old) :: rest =>
    match compare key name with
    | .lt => (key, value) :: (name, old) :: rest
    | .eq => (key, value) :: rest
    | .gt => (name, old) :: set key value rest

/-- Entries put one after the other; of one key the last value stays. -/
def ofList (entries : List (String × α)) : Keyed α :=
  entries.foldl (fun keyed (key, value) => set key value keyed) []

def keys (entries : Keyed α) : List String := entries.map Prod.fst

example : keys (ofList [("b", 1), ("a", 2), ("b", 3)]) = ["a", "b"] := by
  decide +kernel

theorem get?_set_self (key : String) (value : α) (entries : Keyed α) :
    get? key (set key value entries) = some value := by
  induction entries with
  | nil => simp [set, get?]
  | cons entry rest induction =>
    obtain ⟨name, old⟩ := entry
    unfold set
    split
    · simp [get?]
    · simp [get?]
    · next order =>
      have different : name ≠ key := by
        rintro rfl
        simp at order
      simp [get?, different, induction]

theorem get?_set_of_ne {key other : String} (different : other ≠ key) (value : α)
    (entries : Keyed α) :
    get? other (set key value entries) = get? other entries := by
  induction entries with
  | nil => simp [set, get?, Ne.symm different]
  | cons entry rest induction =>
    obtain ⟨name, old⟩ := entry
    unfold set
    split
    · simp [get?, Ne.symm different]
    · next order =>
      have equal : key = name := by simpa using order
      subst equal
      simp [get?, Ne.symm different]
    · simp [get?, induction]

theorem set_comm_of_lt {key other : String} (less : compare key other = .lt)
    (value old : α) (entries : Keyed α) :
    set key value (set other old entries) =
      set other old (set key value entries) := by
  have greater : compare other key = .gt := Std.OrientedCmp.gt_of_lt less
  induction entries with
  | nil => simp [set, less, greater]
  | cons entry rest induction =>
    obtain ⟨name, current⟩ := entry
    cases place : compare key name with
    | lt =>
      cases otherPlace : compare other name <;>
        simp [set, place, otherPlace, less, greater]
    | eq =>
      have same : key = name := by simpa using place
      subst same
      simp [set, greater]
    | gt =>
      have above : compare other name = .gt := Std.TransCmp.gt_trans greater place
      simp [set, place, above, induction]

theorem set_comm {key other : String} (different : key ≠ other) (value old : α)
    (entries : Keyed α) :
    set key value (set other old entries) =
      set other old (set key value entries) := by
  cases order : compare key other with
  | lt => exact set_comm_of_lt order value old entries
  | eq => exact absurd (by simpa using order) different
  | gt =>
    exact (set_comm_of_lt (Std.OrientedCmp.lt_of_gt order) old value entries).symm

end Keyed

end CriteriaQuery
