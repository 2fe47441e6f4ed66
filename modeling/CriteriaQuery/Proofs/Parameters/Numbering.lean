import CriteriaQuery.Proofs.Correspondence
import CriteriaQuery.Proofs.Parameters.Indices

namespace CriteriaQuery.Parameters

/-! Whether a decoded query heeds every parameter with an index. An index is
found in a name however it is written, but its values are looked up under the
name with the plain numeral. So a query heeds all parameters just when those
whose index is written in another way, or does not fit 64 bits, say the same as
the ones with the plain numeral do. -/

open Double (digitsValue digitsValue_decimal)

variable {parameters : Parameters}

/-! ## Parameters with an index -/

def Gives (parameters : Parameters) (start : String) (index : Nat)
    (value : String) : Prop :=
  ∃ digits, Text.IsDigits digits ∧ digitsValue digits = index ∧
    (start ++ String.ofList digits, value) ∈ parameters

/-- This is the last value given under `start` and the plain numeral of an index
of 64 bits. -/
def GivesPlainly (parameters : Parameters) (start : String) (index : Nat)
    (value : String) : Prop :=
  index ≤ Text.limit64 ∧ parameters.get? (indexed start index) = some value

theorem GivesPlainly.gives {start value : String} {index : Nat}
    (given : parameters.GivesPlainly start index value) :
    parameters.Gives start index value :=
  ⟨_, Text.isDigits_decimal index, digitsValue_decimal index,
    mem_of_get?_eq_some given.2⟩

structure IndexedPart (α : Type) where
  start : String
  Holds : String → α → Prop

/-- Items stand for the indices that parameters are given with, one item for each
index in ascending order, and hold their values. -/
def Enumerates {α : Type} (gives : String → Nat → String → Prop)
    (parts : List (IndexedPart α)) (items : List α) : Prop :=
  ∃ indices : List Nat, indices.Pairwise (· < ·) ∧
    (∀ index, index ∈ indices ↔ ∃ part ∈ parts, ∃ value,
      gives part.start index value) ∧
    List.Forall₂ (fun index item =>
      ∀ part ∈ parts, ∀ value, gives part.start index value →
        part.Holds value item) indices items

def PrefixFree (starts : List String) : Prop :=
  ∀ start ∈ starts, ∀ other ∈ starts, start.toList <+: other.toList →
    start = other

instance (starts : List String) : Decidable (PrefixFree starts) :=
  inferInstanceAs (Decidable (∀ start ∈ starts, ∀ other ∈ starts, _ → _))

theorem isPrefix_of_indexAfter? {start name : String} {index : Nat}
    (found : indexAfter? start name = some index) :
    start.toList <+: name.toList := by
  rcases indexAfter?_eq_some_iff.mp found with ⟨digits, -, rfl | rfl, -⟩
  · exact ⟨digits, by simp⟩
  · exact ⟨'+' :: digits, by simp⟩

theorem findSome?_indexAfter? {starts : List String} (free : PrefixFree starts)
    {start name : String} (member : start ∈ starts) {index : Nat}
    (here : indexAfter? start name = some index) :
    starts.findSome? (indexAfter? · name) = some index := by
  cases found : starts.findSome? (indexAfter? · name) with
  | none =>
    have nowhere := List.findSome?_eq_none_iff.mp found start member
    rw [here] at nowhere
    cases nowhere
  | some first =>
    rcases List.exists_of_findSome?_eq_some found with ⟨other, isStart, there⟩
    have same : other = start := by
      rcases List.prefix_or_prefix_of_prefix (isPrefix_of_indexAfter? there)
        (isPrefix_of_indexAfter? here) with before | before
      · exact free other isStart start member before
      · exact (free start member other isStart before).symm
    rw [same, here] at there
    exact there.symm

theorem forall₂_filterMap {α β : Type} (item? : α → Option β) (places : List α) :
    List.Forall₂ (fun place item => item? place = some item)
      (places.filter fun place => (item? place).isSome)
        (places.filterMap item?) := by
  induction places with
  | nil => exact .nil
  | cons place rest induction =>
    cases found : item? place with
    | none => simpa [found] using induction
    | some item => simpa [found] using induction

section Enumerates

variable {α : Type} {parts : List (IndexedPart α)} {item? : Nat → Option α}

def readIndices (parameters : Parameters) (parts : List (IndexedPart α))
    (item? : Nat → Option α) : List Nat :=
  (indices (parts.map IndexedPart.start) parameters).filter fun index =>
    (item? index).isSome

theorem mem_readIndices_iff (free : PrefixFree (parts.map IndexedPart.start))
    (read : ∀ index item, item? index = some item → ∃ part ∈ parts, ∃ value,
      parameters.get? (indexed part.start index) = some value) {index : Nat} :
    index ∈ readIndices parameters parts item? ↔
      index ≤ Text.limit64 ∧ ∃ item, item? index = some item := by
  rw [readIndices, List.mem_filter, mem_indices_iff, Option.isSome_iff_exists]
  constructor
  · rintro ⟨⟨name, -, found⟩, item⟩
    rcases List.exists_of_findSome?_eq_some found with ⟨start, -, after⟩
    rcases indexAfter?_eq_some_iff.mp after with ⟨digits, -, -, -, small⟩
    exact ⟨small, item⟩
  · rintro ⟨small, item, found⟩
    rcases read index item found with ⟨part, isPart, value, given⟩
    have named : indexed part.start index ∈ parameters.map Prod.fst := by
      rw [← get?_isSome_iff, given, Option.isSome_some]
    have isStart := List.mem_map_of_mem (f := IndexedPart.start) isPart
    exact ⟨⟨_, named,
        findSome?_indexAfter? free isStart (indexAfter?_indexed small)⟩,
      item, found⟩

/-- Items that are read at the indices of names, each from a name with the plain
numeral, enumerate all that is given just when every value is held where it
belongs. -/
theorem enumerates_filterMap_iff (free : PrefixFree (parts.map IndexedPart.start))
    (read : ∀ index item, item? index = some item → ∃ part ∈ parts, ∃ value,
      parameters.get? (indexed part.start index) = some value)
    {gives : String → Nat → String → Prop}
    (plainly : ∀ start index value, parameters.GivesPlainly start index value →
      gives start index value) :
    Enumerates gives parts
        ((indices (parts.map IndexedPart.start) parameters).filterMap item?) ↔
      ∀ part ∈ parts, ∀ index value, gives part.start index value →
        index ≤ Text.limit64 ∧ ∃ item, item? index = some item ∧
        part.Holds value item := by
  have items : List.Forall₂ _ (readIndices parameters parts item?) _ :=
    forall₂_filterMap item? (indices (parts.map IndexedPart.start) parameters)
  have ascending : (readIndices parameters parts item?).Pairwise (· < ·) :=
    (ascending_indices _ parameters).filter _
  have given {index : Nat} (member : index ∈ readIndices parameters parts item?) :
      ∃ part ∈ parts, ∃ value, gives part.start index value := by
    rcases (mem_readIndices_iff free read).mp member with ⟨small, item, found⟩
    rcases read index item found with ⟨part, isPart, value, given⟩
    exact ⟨part, isPart, value, plainly _ _ _ ⟨small, given⟩⟩
  constructor
  · rintro ⟨places, placesAscending, named, held⟩ part isPart index value gives
    -- As many indices are enumerated as are read at, and these are among them.
    have inside : readIndices parameters parts item? ⊆ places :=
      fun index member => (named index).mpr (given member)
    have same : readIndices parameters parts item? = places := by
      have sublist := List.sublist_of_subperm_of_pairwise
        (List.subperm_of_subset ascending.nodup inside) ascending placesAscending
      exact sublist.eq_of_length (items.length_eq.trans held.length_eq.symm)
    rw [← same] at named held
    have member := (named index).mpr ⟨part, isPart, value, gives⟩
    have both := items.mp (fun _ _ found holds => And.intro found holds) held
    rcases exists_of_mem_left both member with ⟨item, -, found, holds⟩
    exact ⟨((mem_readIndices_iff free read).mp member).1, item, found,
      holds part isPart value gives⟩
  · intro held
    refine ⟨_, ascending, fun index => ⟨given, ?_⟩, items.imp ?_⟩
    · rintro ⟨part, isPart, value, gives⟩
      rcases held part isPart index value gives with ⟨small, item, found, -⟩
      exact (mem_readIndices_iff free read).mpr ⟨small, item, found⟩
    · intro index item found part isPart value gives
      rcases held part isPart index value gives with ⟨-, other, foundOther, holds⟩
      rw [found] at foundOther
      cases foundOther
      exact holds

theorem mem_indices_of_gives {starts : List String} (free : PrefixFree starts)
    {start : String} (isStart : start ∈ starts) {index : Nat} {value : String}
    (gives : parameters.Gives start index value) (small : index ≤ Text.limit64) :
    index ∈ indices starts parameters := by
  rcases gives with ⟨digits, isDigits, spells, member⟩
  have here : indexAfter? start (start ++ String.ofList digits) = some index :=
    indexAfter?_eq_some_iff.mpr ⟨digits, isDigits, .inl rfl, spells, small⟩
  exact mem_indices_iff.mpr
    ⟨_, List.mem_map_of_mem member, findSome?_indexAfter? free isStart here⟩

/-- The parameter with the plain numeral says of an index what one says that
gives the index in any other way, as far as it is read. -/
def Agrees {β : Type} (parameters : Parameters) (start : String)
    (read : Option String → β) : Prop :=
  ∀ index value, parameters.Gives start index value →
    index ≤ Text.limit64 ∧
    read (parameters.get? (indexed start index)) = read (some value)

structure IsReadFrom {β : Type} (parameters : Parameters) (item? : Nat → Option α)
    (part : IndexedPart α) (read : Option String → β) : Prop where
  holds_iff : ∀ index item, item? index = some item → ∀ value,
    part.Holds value item ↔
    read (parameters.get? (indexed part.start index)) = read (some value)
  exists_item : ∀ index value, parameters.Gives part.start index value →
    index ≤ Text.limit64 →
    read (parameters.get? (indexed part.start index)) = read (some value) →
    ∃ item, item? index = some item

namespace IsReadFrom

variable {β : Type} {part : IndexedPart α} {read : Option String → β}

theorem agrees_iff (isRead : IsReadFrom parameters item? part read) :
    (∀ index value, parameters.Gives part.start index value →
      index ≤ Text.limit64 ∧ ∃ item, item? index = some item ∧
      part.Holds value item) ↔ parameters.Agrees part.start read := by
  constructor
  · intro held index value gives
    rcases held index value gives with ⟨small, item, found, holds⟩
    exact ⟨small, (isRead.holds_iff index item found value).mp holds⟩
  · intro agrees index value gives
    rcases agrees index value gives with ⟨small, same⟩
    rcases isRead.exists_item index value gives small same with ⟨item, found⟩
    exact ⟨small, item, found, (isRead.holds_iff index item found value).mpr same⟩

theorem holds_plainly (isRead : IsReadFrom parameters item? part read)
    (index : Nat) (value : String)
    (given : parameters.GivesPlainly part.start index value) :
    index ≤ Text.limit64 ∧ ∃ item, item? index = some item ∧
    part.Holds value item := by
  have same := congrArg read given.2
  rcases isRead.exists_item index value given.gives given.1
    same with ⟨item, found⟩
  exact ⟨given.1, item, found, (isRead.holds_iff index item found value).mpr same⟩

theorem enumerates_singleton (isRead : IsReadFrom parameters item? part read)
    (given : ∀ index item, item? index = some item →
      ∃ value, parameters.get? (indexed part.start index) = some value) :
    Enumerates parameters.GivesPlainly [part]
        ((indices [part.start] parameters).filterMap item?) ∧
      (Enumerates parameters.Gives [part]
        ((indices [part.start] parameters).filterMap item?) ↔
        parameters.Agrees part.start read) := by
  have free : PrefixFree ([part].map IndexedPart.start) := by
    intro start isStart other isOther _
    rw [List.mem_singleton.mp isStart, List.mem_singleton.mp isOther]
  have readAt (index : Nat) (item : α) (found : item? index = some item) :
      ∃ only ∈ [part], ∃ value,
      parameters.get? (indexed only.start index) = some value :=
    ⟨part, List.mem_cons_self, given index item found⟩
  constructor
  · apply (enumerates_filterMap_iff free readAt fun _ _ _ given => given).mpr
    rw [List.forall_mem_singleton]
    exact isRead.holds_plainly
  · apply (enumerates_filterMap_iff free readAt fun _ _ _ given =>
      given.gives).trans
    rw [List.forall_mem_singleton]
    exact isRead.agrees_iff

end IsReadFrom

end Enumerates

/-! ## Decoded queries -/

def keyPart : IndexedPart Criterion :=
  ⟨"key", fun value criterion => criterion.key = value⟩

def operationPart : IndexedPart Criterion :=
  ⟨"operation", fun value criterion =>
    ∃ operator, Operator.ofName? value = some operator ∧
      criterion.operator = some operator⟩

def valuesPart : IndexedPart Criterion :=
  ⟨"values", fun value criterion => criterion.values = values value⟩

def fieldPart : IndexedPart SortSpec :=
  ⟨"orderBy", fun value clause => clause.field = value⟩

def sourcePart : IndexedPart SelectPath :=
  ⟨"select", fun value pair => pair.source = value⟩

structure Heeds (query : Query) (gives : String → Nat → String → Prop) :
    Prop where
  criteria : Enumerates gives [keyPart, operationPart, valuesPart] query.criteria
  sort : Enumerates gives [fieldPart] query.sort
  select : Enumerates gives [sourcePart] query.select

/-- Parameters whose index is written in another way than the plain numeral say
what those with the plain numeral say. -/
structure NamesAgree (parameters : Parameters) : Prop where
  key : parameters.Agrees "key" (·.getD "")
  operation : parameters.Agrees "operation" (·.bind Operator.ofName?)
  values : parameters.Agrees "values" fun given => (given.map values).getD []
  orderBy : parameters.Agrees "orderBy" id
  select : parameters.Agrees "select" id

structure IsPlain (parameters : Parameters) : Prop where
  distinct : (parameters.map Prod.fst).Nodup
  numerals : ∀ start ∈ ["key", "operation", "values", "orderBy", "select"],
    ∀ digits value, Text.IsDigits digits →
      (start ++ String.ofList digits, value) ∈ parameters → digits =
        Text.decimal (digitsValue digits) ∧ digitsValue digits ≤ Text.limit64

theorem IsPlain.namesAgree (plain : parameters.IsPlain) :
    parameters.NamesAgree := by
  have agrees {β : Type} (start : String)
      (isStart : start ∈ ["key", "operation", "values", "orderBy", "select"])
      (read : Option String → β) : parameters.Agrees start read := by
    rintro index value ⟨digits, isDigits, rfl, member⟩
    rcases plain.numerals start isStart digits value isDigits member with
      ⟨numeral, small⟩
    rw [numeral, ← get?_eq_some_iff_mem plain.distinct] at member
    exact ⟨small, congrArg read member⟩
  constructor
  all_goals exact agrees _ (by decide) _

/-! ### Criteria -/

def criterionAt? (parameters : Parameters) (index : Nat) : Option Criterion :=
  (parameters.criterionAt index).toOption

theorem criterionAt?_eq_some_iff {index : Nat} {criterion : Criterion} :
    parameters.criterionAt? index = some criterion ↔
      ∃ text operator, parameters.get? (indexed "operation" index) = some text ∧
        Operator.ofName? text = some operator ∧
        criterion = ⟨(parameters.get? (indexed "key" index)).getD "",
          some operator,
          ((parameters.get? (indexed "values" index)).map Parameters.values).getD
          []⟩ := by
  rw [criterionAt?, Text.toOption_eq_some_iff, criterionAt]
  cases parameters.get? (indexed "operation" index) with
  | none => simp
  | some text =>
    dsimp only
    cases named : Operator.ofName? text with
    | none => simp [named]
    | some operator => simp [named, eq_comm]

theorem criteria_eq_filterMap {criteria : List Criterion}
    (decoded : parameters.criteria = .ok criteria) :
    criteria = (indices ["key", "operation", "values"] parameters).filterMap
      parameters.criterionAt? :=
  eq_filterMap_of_mapM decoded

theorem isReadFrom_criterionAt? {criteria : List Criterion}
    (decoded : parameters.criteria = .ok criteria) {β : Type}
    {part : IndexedPart Criterion} {read : Option String → β}
    (isStart : part.start ∈ ["key", "operation", "values"])
    (holds_iff : ∀ index criterion,
      parameters.criterionAt? index = some criterion →
      ∀ value, part.Holds value criterion ↔
      read (parameters.get? (indexed part.start index)) = read (some value)) :
    IsReadFrom parameters parameters.criterionAt? part read := by
  refine ⟨holds_iff, fun index value gives small _ => ?_⟩
  have member := mem_indices_of_gives (by decide) isStart gives small
  rcases exists_of_mem_left (mapM_eq_ok_iff.mp decoded) member with
    ⟨criterion, -, read⟩
  exact ⟨criterion, Text.toOption_eq_some_iff.mpr read⟩

theorem enumerates_criteria {criteria : List Criterion}
    (decoded : parameters.criteria = .ok criteria) :
    Enumerates parameters.GivesPlainly [keyPart, operationPart, valuesPart]
      criteria ∧
      (Enumerates parameters.Gives [keyPart, operationPart, valuesPart] criteria ↔
        parameters.Agrees "key" (·.getD "") ∧
          parameters.Agrees "operation" (·.bind Operator.ofName?) ∧
          parameters.Agrees "values" fun given =>
            (given.map values).getD []) := by
  have key : IsReadFrom parameters parameters.criterionAt? keyPart
      (·.getD "") := by
    apply isReadFrom_criterionAt? decoded (by decide)
    intro index criterion found value
    rcases criterionAt?_eq_some_iff.mp found with ⟨text, operator, -, -, rfl⟩
    exact Iff.rfl
  have operation : IsReadFrom parameters parameters.criterionAt? operationPart
      (·.bind Operator.ofName?) := by
    apply isReadFrom_criterionAt? decoded (by decide)
    intro index criterion found value
    rcases criterionAt?_eq_some_iff.mp found with
      ⟨text, operator, given, named, rfl⟩
    simp [operationPart, given, named, eq_comm]
  have values : IsReadFrom parameters parameters.criterionAt? valuesPart
      (fun given => (given.map values).getD []) := by
    apply isReadFrom_criterionAt? decoded (by decide)
    intro index criterion found value
    rcases criterionAt?_eq_some_iff.mp found with ⟨text, operator, -, -, rfl⟩
    exact Iff.rfl
  have free : PrefixFree
    ([keyPart, operationPart, valuesPart].map IndexedPart.start) := by decide
  have given (index : Nat) (criterion : Criterion)
      (found : parameters.criterionAt? index = some criterion) :
      ∃ part ∈ [keyPart, operationPart, valuesPart], ∃ value,
        parameters.get? (indexed part.start index) = some value := by
    rcases criterionAt?_eq_some_iff.mp found with ⟨text, operator, given, -⟩
    exact ⟨_, List.mem_cons_of_mem _ List.mem_cons_self, text, given⟩
  rw [criteria_eq_filterMap decoded]
  constructor
  · apply (enumerates_filterMap_iff free given fun _ _ _ gives => gives).mpr
    simp only [List.forall_mem_cons]
    exact ⟨key.holds_plainly, operation.holds_plainly,
      values.holds_plainly, by simp⟩
  · apply (enumerates_filterMap_iff free given fun _ _ _ gives =>
      gives.gives).trans
    simp only [List.forall_mem_cons]
    rw [key.agrees_iff, operation.agrees_iff, values.agrees_iff]
    simp [keyPart, operationPart, valuesPart]

/-! ### Sort clauses and projection -/

def sortAt? (parameters : Parameters) (index : Nat) : Option SortSpec :=
  (parameters.sortAt index).toOption.join

theorem map_field_of_sortAt {index : Nat} {clause? : Option SortSpec}
    (read : parameters.sortAt index = .ok clause?) :
    clause?.map SortSpec.field = parameters.get? (indexed "orderBy" index) := by
  unfold sortAt at read
  split at read
  next missing =>
    cases read
    exact missing.symm
  next field given =>
    dsimp only at read
    split at read
    next => cases read; exact given.symm
    next text _ =>
      split at read
      next => cases read; exact given.symm
      next => cases read

theorem get?_of_sortAt? {index : Nat} {clause : SortSpec}
    (found : parameters.sortAt? index = some clause) :
    parameters.get? (indexed "orderBy" index) = some clause.field := by
  have read := Text.toOption_eq_some_iff.mp (Option.join_eq_some_iff.mp found)
  exact (map_field_of_sortAt read).symm

theorem sort_eq_filterMap {clauses : List SortSpec}
    (decoded : parameters.sort = .ok clauses) :
    ∃ found, (indices ["orderBy"] parameters).mapM parameters.sortAt = .ok found ∧
      clauses = (indices ["orderBy"] parameters).filterMap
        parameters.sortAt? := by
  unfold sort at decoded
  cases done : (indices ["orderBy"] parameters).mapM parameters.sortAt with
  | error error =>
    rw [done] at decoded
    cases decoded
  | ok found =>
    rw [done] at decoded
    cases decoded
    refine ⟨found, rfl, ?_⟩
    calc found.reduceOption
        = ((indices ["orderBy"] parameters).filterMap fun index =>
            (parameters.sortAt index).toOption).filterMap id :=
          congrArg List.reduceOption (eq_filterMap_of_mapM done)
      _ = (indices ["orderBy"] parameters).filterMap parameters.sortAt? :=
          List.filterMap_filterMap

theorem enumerates_sort {clauses : List SortSpec}
    (decoded : parameters.sort = .ok clauses) :
    Enumerates parameters.GivesPlainly [fieldPart] clauses ∧
      (Enumerates parameters.Gives [fieldPart] clauses ↔
        parameters.Agrees "orderBy" id) := by
  rcases sort_eq_filterMap decoded with ⟨results, done, rfl⟩
  have field : IsReadFrom parameters parameters.sortAt? fieldPart id := by
    constructor
    · intro index clause found value
      simp [fieldPart, get?_of_sortAt? found]
    · intro index value gives small given
      have free : PrefixFree ["orderBy"] := by decide
      have member := mem_indices_of_gives free List.mem_cons_self gives small
      rcases exists_of_mem_left (mapM_eq_ok_iff.mp done) member with
        ⟨clause?, -, read⟩
      have isSome := map_field_of_sortAt read
      rw [show parameters.get? (indexed "orderBy" index) = some value from given,
        Option.map_eq_some_iff] at isSome
      rcases isSome with ⟨clause, rfl, -⟩
      refine ⟨clause, ?_⟩
      rw [sortAt?, read]
      rfl
  exact field.enumerates_singleton fun index clause found =>
    ⟨_, get?_of_sortAt? found⟩

theorem enumerates_select (parameters : Parameters) :
    Enumerates parameters.GivesPlainly [sourcePart] parameters.select ∧
      (Enumerates parameters.Gives [sourcePart] parameters.select ↔
        parameters.Agrees "select" id) := by
  have given {index : Nat} {pair : SelectPath}
      (found : parameters.selectAt? index = some pair) :
      parameters.get? (indexed "select" index) = some pair.source := by
    rcases Option.map_eq_some_iff.mp found with ⟨source, given, rfl⟩
    exact given
  have source : IsReadFrom parameters parameters.selectAt? sourcePart id := by
    constructor
    · intro index pair found value
      simp [sourcePart, given found]
    · intro index value gives small given
      exact ⟨_, Option.map_eq_some_iff.mpr ⟨value, given, rfl⟩⟩
  exact source.enumerates_singleton fun index pair found => ⟨_, given found⟩

/-! ### Whole queries -/

theorem lists_of_query {query : Query} (decoded : parameters.query = .ok query) :
    parameters.criteria = .ok query.criteria ∧ parameters.sort = .ok query.sort ∧
      query.select = parameters.select := by
  unfold Parameters.query at decoded
  generalize parameters.criteria = criteria?, parameters.sort = sort?,
    parameters.number "pageNumber" = pageNumber?,
    parameters.number "pageSize" = pageSize?,
    parameters.flag "distinct" = distinct? at *
  cases criteria? with
  | error error => cases decoded
  | ok criteria =>
    cases sort? with
    | error error => cases decoded
    | ok sort =>
      cases pageNumber? with
      | error error => cases decoded
      | ok pageNumber =>
        cases pageSize? with
        | error error => cases decoded
        | ok pageSize =>
          cases distinct? with
          | error error => cases decoded
          | ok distinct =>
            cases decoded
            exact ⟨rfl, rfl, rfl⟩

/-- A decoded query heeds all that is given with plain numerals. It heeds
everything that is given with an index just when those parameters agree, so
always when no name comes twice and every index is a plain numeral. -/
theorem heeds_iff_namesAgree {query : Query}
    (decoded : parameters.query = .ok query) :
    Heeds query parameters.GivesPlainly ∧
      (Heeds query parameters.Gives ↔ parameters.NamesAgree) ∧
      (parameters.IsPlain → Heeds query parameters.Gives) := by
  rcases lists_of_query decoded with ⟨criteria, sort, select⟩
  have readCriteria := enumerates_criteria criteria
  have readSort := enumerates_sort sort
  have readSelect := enumerates_select parameters
  rw [← select] at readSelect
  have agree : Heeds query parameters.Gives ↔ parameters.NamesAgree := by
    constructor
    · rintro ⟨heedsCriteria, heedsSort, heedsSelect⟩
      rcases readCriteria.2.mp heedsCriteria with ⟨key, operation, values⟩
      exact ⟨key, operation, values, readSort.2.mp heedsSort,
        readSelect.2.mp heedsSelect⟩
    · intro names
      exact ⟨readCriteria.2.mpr ⟨names.key, names.operation, names.values⟩,
        readSort.2.mpr names.orderBy, readSelect.2.mpr names.select⟩
  refine ⟨⟨readCriteria.1, readSort.1, readSelect.1⟩, agree, fun plain => ?_⟩
  exact agree.mpr plain.namesAgree

def keyWithZero : Parameters :=
  [("key01", "age"), ("operation1", "GREATER_THAN"), ("values1", "30")]

/-- The key is left out and the query goes through. -/
theorem key_with_zero_is_ignored :
    ∃ query, keyWithZero.query = .ok query ∧
      query.criteria = [⟨"", some .greaterThan, [.ofInt 30]⟩] ∧
      Heeds query keyWithZero.GivesPlainly ∧ ¬ Heeds query keyWithZero.Gives := by
  have decoded : keyWithZero.query =
      .ok ⟨[⟨"", some .greaterThan, [.ofInt 30]⟩], [], [], none, none,
        false⟩ := by rfl
  have heeds := heeds_iff_namesAgree decoded
  refine ⟨_, decoded, rfl, heeds.1, fun all => ?_⟩
  have agrees := (heeds.2.1.mp all).key
  have gives : keyWithZero.Gives "key" 1 "age" :=
    ⟨['0', '1'], ⟨by simp, List.all_eq_true.mp rfl⟩, rfl, List.mem_cons_self⟩
  exact absurd (agrees 1 "age" gives).2 (by decide)

end CriteriaQuery.Parameters
