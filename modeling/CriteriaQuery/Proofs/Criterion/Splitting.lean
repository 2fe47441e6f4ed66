import CriteriaQuery.Criterion.Basic
import CriteriaQuery.Proofs.Path.Segments
import Mathlib.Data.List.Flatten
import Mathlib.Data.List.Induction

namespace CriteriaQuery

/-! Groups are split in one pass, with one group open at a time. What the pass has
closed and what it has open is all it needs to know of the items behind it. From
this follows which items the runs of a list have, in which order, and which items
stand in the same run. -/

/-! ## One pass over a list -/

section Pieces

variable {α : Type} {isSeparator : α → Bool}

theorem runs_append_separator {separator : α}
    (separates : isSeparator separator = true) (left right : List α) :
    runs isSeparator (left ++ separator :: right) =
      runs isSeparator left ++ runs isSeparator right := by
  rw [runs, pieces_append_separator separates, List.filter_append]
  rfl

theorem runs_of_no_separator {items : List α} (some : items ≠ [])
    (plain : ∀ item ∈ items, isSeparator item = false) :
    runs isSeparator items = [items] := by
  simp [runs, pieces_of_no_separator plain, some]

theorem ne_nil_of_mem_runs {items run : List α}
    (member : run ∈ runs isSeparator items) : run ≠ [] := by
  simpa using (List.mem_filter.mp member).2

end Pieces

structure Scan (α : Type) where
  closed : List (List α)
  opened : List α

namespace Scan

variable {α : Type} {isSeparator : α → Bool}

def finish (scan : Scan α) : List (List α) :=
  if scan.opened.isEmpty then scan.closed else scan.closed ++ [scan.opened]

def step (isSeparator : α → Bool) (scan : Scan α) (item : α) : Scan α :=
  if isSeparator item then ⟨scan.finish, []⟩
  else ⟨scan.closed, scan.opened ++ [item]⟩

def of (isSeparator : α → Bool) (items : List α) : Scan α :=
  items.foldl (step isSeparator) ⟨[], []⟩

/-- A pass that has seen some items: what is open has no separator, no other
item is lost, and whatever follows is split as if it followed the open run. -/
structure HasSeen (isSeparator : α → Bool) (scan : Scan α) (items : List α) :
    Prop where
  plain : ∀ item ∈ scan.opened, isSeparator item = false
  kept : scan.closed.flatten ++ scan.opened = items.filter fun item =>
    !isSeparator item
  further : ∀ rest, runs isSeparator (items ++ rest) =
    scan.closed ++ runs isSeparator (scan.opened ++ rest)

theorem flatten_finish (scan : Scan α) :
    scan.finish.flatten = scan.closed.flatten ++ scan.opened := by
  unfold finish
  cases scan.opened <;> simp

variable {scan : Scan α} {items : List α}

theorem HasSeen.finish_eq (seen : scan.HasSeen isSeparator items) :
    scan.finish = runs isSeparator items := by
  have further := seen.further []
  rw [List.append_nil, List.append_nil] at further
  rw [further, Scan.finish]
  cases opened : scan.opened with
  | nil => simp [runs, pieces]
  | cons first more =>
    rw [runs_of_no_separator (by simp) (opened ▸ seen.plain)]
    rfl

theorem HasSeen.step (seen : scan.HasSeen isSeparator items) (item : α) :
    (scan.step isSeparator item).HasSeen isSeparator (items ++ [item]) := by
  unfold Scan.step
  cases separates : isSeparator item with
  | true =>
    refine ⟨nofun, ?_, fun rest => ?_⟩
    · simpa [flatten_finish, separates] using seen.kept
    · rw [List.append_assoc, List.singleton_append,
        runs_append_separator separates, ← seen.finish_eq]
      rfl
  | false =>
    refine ⟨?_, ?_, fun rest => ?_⟩
    · simpa [or_imp, forall_and, separates] using seen.plain
    · simp [separates, ← seen.kept]
    · simpa using seen.further (item :: rest)

theorem hasSeen_of (isSeparator : α → Bool) (items : List α) :
    (of isSeparator items).HasSeen isSeparator items := by
  induction items using List.reverseRecOn with
  | nil => exact ⟨nofun, rfl, fun rest => rfl⟩
  | append_singleton front item induction =>
    rw [of, List.foldl_append]
    exact induction.step item

/-- Further items join an open run until one of them is a separator. -/
theorem exists_runs_append {run : List α} (some : run ≠ [])
    (plain : ∀ item ∈ run, isSeparator item = false) (rest : List α) :
    ∃ joined later, runs isSeparator (run ++ rest) =
      (run ++ joined) :: later := by
  induction rest generalizing run with
  | nil => exact ⟨[], [], by simp [runs_of_no_separator some plain]⟩
  | cons item rest induction =>
    cases separates : isSeparator item with
    | true =>
      refine ⟨[], runs isSeparator rest, ?_⟩
      rw [runs_append_separator separates, runs_of_no_separator some plain]
      simp
    | false =>
      have extended : ∀ other ∈ run ++ [item], isSeparator other = false := by
        simpa [or_imp, forall_and, separates] using plain
      obtain ⟨joined, later, cut⟩ := induction (by simp) extended
      exact ⟨item :: joined, later, by simpa using cut⟩

end Scan

/-! ## Items and their runs -/

/-- The lists before a number end at or before a position of all lists put
together, and the list with that number ends behind it. -/
structure StandsIn {α : Type} (lists : List (List α)) (position number : Nat) :
    Prop where
  behind : (lists.take number).flatten.length ≤ position
  inside : position < (lists.take (number + 1)).flatten.length

/-- How many items before a position are no separators: the place of the item at
the position among all runs put together. -/
def rank {α : Type} (isSeparator : α → Bool) (items : List α)
    (position : Nat) : Nat :=
  (items.take position).countP fun item => !isSeparator item

section Runs

variable {α : Type} {isSeparator : α → Bool}

theorem flatten_runs (isSeparator : α → Bool) (items : List α) :
    (runs isSeparator items).flatten = items.filter fun item =>
      !isSeparator item := by
  have seen := Scan.hasSeen_of isSeparator items
  rw [← seen.finish_eq, Scan.flatten_finish, seen.kept]

theorem length_flatten_runs (isSeparator : α → Bool) (items : List α) :
    (runs isSeparator items).flatten.length = items.countP fun item =>
      !isSeparator item := by
  rw [flatten_runs, List.countP_eq_length_filter]

theorem StandsIn.lt_length_iff {left right : List (List α)}
    {position number : Nat} (stands : StandsIn (left ++ right) position number) :
    position < left.flatten.length ↔ number < left.length := by
  rcases Nat.lt_or_ge number left.length with within | after
  · have inside := stands.inside
    rw [List.take_append_of_le_length
      (show number + 1 ≤ left.length from within)] at inside
    have part := (List.take_sublist (number + 1) left).flatten.length_le
    exact iff_of_true (by omega) within
  · have behind := stands.behind
    rw [List.take_append, List.take_of_length_le after, List.flatten_append,
      List.length_append] at behind
    exact iff_of_false (by omega) (by omega)

variable {items : List α} {first second : Nat}

theorem rank_mono (isSeparator : α → Bool) (items : List α)
    (ordered : first ≤ second) :
    rank isSeparator items first ≤ rank isSeparator items second :=
  (List.take_sublist_take_left ordered).countP_le

theorem rank_succ {position : Nat} {item : α}
    (found : items[position]? = some item) (plain : isSeparator item = false) :
    rank isSeparator items (position + 1) =
      rank isSeparator items position + 1 := by
  simp [rank, List.take_add_one, found, plain]

theorem eq_take_append_cons_drop {position : Nat} {item : α}
    (found : items[position]? = some item) :
    items = items.take position ++ item :: items.drop (position + 1) := by
  obtain ⟨bound, rfl⟩ := List.getElem?_eq_some_iff.mp found
  simp

theorem getElem?_flatten_runs {position : Nat} {item : α}
    (found : items[position]? = some item) (plain : isSeparator item = false) :
    (runs isSeparator items).flatten[rank isSeparator items position]? =
      some item := by
  rw [flatten_runs]
  conv_lhs => enter [1]; rw [eq_take_append_cons_drop found, List.filter_append]
  rw [rank, List.countP_eq_length_filter, List.getElem?_append_right le_rfl]
  simp [plain]

theorem StandsIn.no_separator_between {number place : Nat} {left between : α}
    (firstStands : StandsIn (runs isSeparator items)
      (rank isSeparator items first) number)
    (secondStands : StandsIn (runs isSeparator items)
      (rank isSeparator items second) number)
    (found : items[first]? = some left) (plain : isSeparator left = false)
    (behind : first < place) (before : place < second)
    (inside : items[place]? = some between) : isSeparator between = false := by
  by_contra separates
  rw [Bool.not_eq_false] at separates
  have parted : runs isSeparator items =
      runs isSeparator (items.take place) ++ runs isSeparator
        (items.drop (place + 1)) := by
    rw [← runs_append_separator separates, ← eq_take_append_cons_drop inside]
  have length : (runs isSeparator (items.take place)).flatten.length =
      rank isSeparator items place :=
        length_flatten_runs isSeparator (items.take place)
  have below : rank isSeparator items first < rank isSeparator items place := by
    have next := rank_succ found plain
    have upTo := rank_mono isSeparator items (show first + 1 ≤ place from behind)
    omega
  have above : rank isSeparator items place ≤ rank isSeparator items second :=
    rank_mono isSeparator items before.le
  rw [parted] at firstStands secondStands
  have within := firstStands.lt_length_iff.mp (by omega)
  have outside := mt secondStands.lt_length_iff.mpr (by omega)
  exact outside within

/-- Items in a row that are no separators stand in one run, behind what was open
when the first of them was met. -/
theorem exists_run_around (front : List α) {middle : List α} (some : middle ≠ [])
    (plain : ∀ item ∈ middle, isSeparator item = false) (rest : List α) :
    ∃ earlier start joined later,
      runs isSeparator (front ++ (middle ++ rest)) =
        earlier ++ (start ++ middle ++ joined) :: later ∧
      (earlier.flatten ++ start).length = front.countP fun item =>
        !isSeparator item := by
  have seen := Scan.hasSeen_of isSeparator front
  generalize Scan.of isSeparator front = scan at seen
  have allPlain : ∀ item ∈ scan.opened ++ middle, isSeparator item = false :=
    fun item member => (List.mem_append.mp member).elim
      (seen.plain item) (plain item)
  obtain ⟨joined, later, cut⟩ :=
    Scan.exists_runs_append (by simp [some]) allPlain rest
  refine ⟨scan.closed, scan.opened, joined, later, ?_, ?_⟩
  · rw [seen.further, ← List.append_assoc, cut]
  · rw [seen.kept, List.countP_eq_length_filter]

theorem exists_standsIn_of_no_separator {right : α} (ordered : first ≤ second)
    (found : items[second]? = some right)
    (plain : ∀ place item,
      first ≤ place → place ≤ second → items[place]? = some item →
      isSeparator item = false) :
    ∃ number,
      StandsIn (runs isSeparator items) (rank isSeparator items first) number ∧
      StandsIn (runs isSeparator items) (rank isSeparator items second)
        number := by
  let middle := (items.take (second + 1)).drop first
  have joined : items.take first ++ middle = items.take (second + 1) := by
    have cut := List.take_append_drop first (items.take (second + 1))
    rwa [List.take_take, Nat.min_eq_left (by omega)] at cut
  have whole : items = items.take first ++
      (middle ++ items.drop (second + 1)) := by
    rw [← List.append_assoc, joined, List.take_append_drop]
  have middlePlain : ∀ item ∈ middle, isSeparator item = false := by
    intro item member
    obtain ⟨place, inside⟩ := List.mem_iff_getElem?.mp member
    rw [List.getElem?_drop, List.getElem?_take,
      Option.ite_none_right_eq_some] at inside
    exact plain (first + place) item (by omega) (by omega) inside.2
  have upTo := rank_mono isSeparator items ordered
  have last := rank_succ found (plain second right ordered le_rfl found)
  have stop : rank isSeparator items (second + 1) =
      rank isSeparator items first + middle.length := by
    have all : middle.countP (fun item => !isSeparator item) = middle.length := by
      rw [List.countP_eq_length]
      simpa using middlePlain
    rw [rank, ← joined, List.countP_append, all, rank]
  obtain ⟨earlier, start, more, later, cut, before⟩ :=
    exists_run_around (items.take first) (List.ne_nil_of_length_pos (by omega))
      middlePlain (items.drop (second + 1))
  rw [← whole] at cut
  change _ = rank isSeparator items first at before
  have taken : ((runs isSeparator items).take earlier.length).flatten =
      earlier.flatten ∧
      ((runs isSeparator items).take (earlier.length + 1)).flatten =
        earlier.flatten ++ start ++ middle ++ more := by
    rw [cut]
    simp [List.take_length_add_append]
  rw [List.length_append] at before
  refine ⟨earlier.length, ⟨?_, ?_⟩, ⟨?_, ?_⟩⟩ <;>
    simp only [taken, List.length_append] <;> omega

end Runs

/-! ## Groups of criteria -/

namespace Criterion

/-- The groups put together are the criteria without the separators, in their
order, and a criterion is found there at its rank. No group is empty. Two
criteria are in the same group exactly if no separator stands between them, and
lists with a separator between them are split one by one. -/
theorem groups_parted_by_separators (criteria : List Criterion) :
    (groups criteria).flatten =
      criteria.filter (fun criterion => !criterion.isOr) ∧
    (∀ group ∈ groups criteria, group ≠ []) ∧
    (∀ position criterion,
      criteria[position]? = some criterion → criterion.isOr = false →
      (groups criteria).flatten[rank isOr criteria position]? = some criterion) ∧
    (∀ first second left right, first ≤ second →
      criteria[first]? = some left → left.isOr = false →
      criteria[second]? = some right → right.isOr = false →
      ((∃ number, StandsIn (groups criteria) (rank isOr criteria first) number ∧
          StandsIn (groups criteria) (rank isOr criteria second) number) ↔
        ∀ place between, first < place → place < second →
          criteria[place]? = some between → between.isOr = false)) ∧
    (∀ separator further, separator.isOr = true →
      groups (criteria ++ separator :: further) =
        groups criteria ++ groups further) := by
  refine ⟨flatten_runs isOr criteria, fun group => ne_nil_of_mem_runs,
    fun position criterion => getElem?_flatten_runs, ?_,
    fun separator further separates =>
      runs_append_separator separates criteria further⟩
  intro first second left right ordered leftFound leftPlain rightFound rightPlain
  constructor
  · rintro ⟨number, leftStands, rightStands⟩ place between behind before inside
    exact leftStands.no_separator_between rightStands leftFound leftPlain
      behind before inside
  · intro none
    refine exists_standsIn_of_no_separator ordered rightFound
      fun place item low high found => ?_
    rcases low.eq_or_lt with rfl | behind
    · rw [leftFound] at found
      cases found
      exact leftPlain
    rcases high.eq_or_lt with rfl | before
    · rw [rightFound] at found
      cases found
      exact rightPlain
    exact none place item behind before found

def scattered : List Criterion :=
  [.or, ⟨"name", some .equal, [.string "Ann"]⟩, .or, .or,
    ⟨"age", some .equal, [.ofNat 30]⟩,
    ⟨"dept", some .specified, [.bool true]⟩, .or]

theorem two_groups_of_scattered :
    (¬ ∃ number, StandsIn (groups scattered) (rank isOr scattered 1) number ∧
      StandsIn (groups scattered) (rank isOr scattered 4) number) ∧
    (∃ number, StandsIn (groups scattered) (rank isOr scattered 4) number ∧
      StandsIn (groups scattered) (rank isOr scattered 5) number) ∧
    groups (scattered ++ .or :: scattered) =
      groups scattered ++ groups scattered := by
  obtain ⟨-, -, -, together, parted⟩ := groups_parted_by_separators scattered
  refine ⟨fun same => ?_, ?_, parted .or scattered rfl⟩
  · have apart := (together 1 4 _ _ (by decide) rfl rfl rfl rfl).mp same 2 .or
    exact absurd (apart (by decide) (by decide) rfl) (by decide)
  · refine (together 4 5 _ _ (by decide) rfl rfl rfl rfl).mpr
      fun place _ behind before => ?_
    omega

end Criterion

end CriteriaQuery
