import CriteriaQuery.Proofs.Model.Projection
import Mathlib.Data.List.Nodup
import Mathlib.Data.List.Perm.Basic

namespace CriteriaQuery

/-! Where a projection without a model puts what it selects. When no target lies
under another one, every value stands at its target, nothing else is put anywhere,
and the order of the pairs does not matter. -/

theorem Keyed.set_set {α : Type} (key : String) (value old : α)
    (entries : Keyed α) :
    set key value (set key old entries) = set key value entries := by
  induction entries with
  | nil => simp [set]
  | cons entry rest induction =>
    rcases entry with ⟨name, current⟩
    cases order : compare key name <;> simp [set, order, induction]

namespace Json

/-! ## Objects on the way -/

def membersAt (key : String) (members : Members) : Members :=
  match Keyed.get? key members with
  | some (.object inner) => inner
  | _ => []

theorem membersAt_set_self (key : String) (inner members : Members) :
    membersAt key (Keyed.set key (.object inner) members) = inner := by
  rw [membersAt, Keyed.get?_set_self]

theorem membersAt_set_of_ne {key other : String} (different : other ≠ key)
    (value : Json) (members : Members) :
    membersAt other (Keyed.set key value members) =
      membersAt other members := by
  rw [membersAt, membersAt, Keyed.get?_set_of_ne different]

def placedAt (value : Json) (segments : List String) (inner : Members) : Json :=
  if segments = [] then value else .object (insertAlong value segments inner)

theorem insertAlong_cons (value : Json) (key : String) (rest : List String)
    (members : Members) :
    insertAlong value (key :: rest) members =
      Keyed.set key (placedAt value rest (membersAt key members)) members := by
  cases rest <;> rfl

/-! ## Key paths -/

/-- The keys lead into a value: each is a key of an object on the way. Items of
arrays are gone through without a key. -/
inductive HasKeys : List String → Json → Prop
  | here (value : Json) : HasKeys [] value
  | member {key : String} {rest : List String} {members : Members}
    {inner : Json} : Keyed.get? key members = some inner → HasKeys rest inner →
      HasKeys (key :: rest) (.object members)
  | item {keys : List String} {items : List Json} {item : Json} :
    item ∈ items → HasKeys keys item → HasKeys keys (.array items)

theorem hasKeys_object_cons_iff {key : String} {rest : List String}
    {members : Members} :
    HasKeys (key :: rest) (.object members) ↔
      ∃ inner, Keyed.get? key members = some inner ∧ HasKeys rest inner := by
  constructor
  · intro has
    cases has with
    | member found inside => exact ⟨_, found, inside⟩
  · intro ⟨inner, found, inside⟩
    exact .member found inside

theorem hasKeys_membersAt {key : String} {keys : List String} {members : Members}
    (has : (Json.object (membersAt key members)).HasKeys keys)
    (some : keys ≠ []) : (Json.object members).HasKeys (key :: keys) := by
  unfold membersAt at has
  split at has
  next inner found => exact .member found has
  next =>
    cases has with
    | here => contradiction
    | member found => cases found

theorem HasKeys.of_reach? {segments keys : List String} {row value : Json}
    (reached : row.reach? segments = some value) (has : value.HasKeys keys) :
    row.HasKeys (segments ++ keys) := by
  induction segments generalizing row with
  | nil =>
    cases reached
    exact has
  | cons segment rest induction =>
    cases row with
    | object members =>
      rw [reach?, get?, Option.bind_eq_some_iff] at reached
      rcases reached with ⟨inner, found, reached⟩
      exact .member found (induction reached)
    | _ => cases reached

theorem HasKeys.of_append {first second : List String} {value : Json}
    (has : value.HasKeys (first ++ second)) : value.HasKeys first := by
  generalize whole : first ++ second = keys at has
  induction has generalizing first with
  | here value =>
    rw [(List.append_eq_nil_iff.mp whole).1]
    exact .here value
  | member found inside induction =>
    cases first with
    | nil => exact .here _
    | cons key more =>
      rcases List.cons.inj whole with ⟨rfl, behind⟩
      exact .member found (induction behind)
  | item member inside induction => exact .item member (induction whole)

/-- What is put where segments lead brings in keys towards that place and the keys
of the value, and no others. -/
theorem hasKeys_of_insertAlong {value : Json} {segments keys : List String}
    {members : Members}
    (has : (Json.object (insertAlong value segments members)).HasKeys keys) :
    keys <+: segments ∨
      (∃ inside, keys = segments ++ inside ∧ value.HasKeys inside) ∨
      (Json.object members).HasKeys keys := by
  induction segments generalizing keys members with
  | nil => exact .inr (.inr has)
  | cons segment others induction =>
    cases keys with
    | nil => exact .inl List.nil_prefix
    | cons key rest =>
      rcases hasKeys_object_cons_iff.mp has with ⟨inner, found, inside⟩
      rw [insertAlong_cons] at found
      by_cases same : key = segment
      · subst same
        rw [Keyed.get?_set_self] at found
        cases found
        by_cases last : others = []
        · subst last
          exact .inr (.inl ⟨rest, rfl, inside⟩)
        · rw [placedAt, if_neg last] at inside
          rcases induction inside with towards | ⟨below, rfl, within⟩ | before
          · exact .inl (List.cons_prefix_cons.mpr ⟨rfl, towards⟩)
          · exact .inr (.inl ⟨below, rfl, within⟩)
          · by_cases whole : rest = []
            · subst whole
              exact .inl (List.cons_prefix_cons.mpr ⟨rfl, List.nil_prefix⟩)
            · exact .inr (.inr (hasKeys_membersAt before whole))
      · rw [Keyed.get?_set_of_ne same] at found
        exact .inr (.inr (.member found inside))

/-- The keys of a projected row lead towards a target or into the value that
stands there. -/
theorem hasKeys_project_iff {select : List SelectPath}
    (separate : SeparateTargets select) (row : Json) (keys : List String) :
    (row.project select).HasKeys keys ↔ keys = [] ∨ ∃ pair ∈ select,
      keys <+: Path.segments pair.target ∨
        ∃ inside, keys = Path.segments pair.target ++ inside ∧
          (row.lookup pair.source).HasKeys inside := by
  constructor
  · intro has
    induction select using List.reverseRecOn with
    | nil =>
      left
      cases has with
      | here => rfl
      | member found => cases found
    | append_singleton select last induction =>
      rcases project_append_singleton row select last with
        ⟨members, before, after⟩
      rw [after] at has
      have isLast : last ∈ select ++ [last] :=
        List.mem_append_right _ List.mem_cons_self
      rcases hasKeys_of_insertAlong has with towards | inside | earlier
      · exact .inr ⟨last, isLast, .inl towards⟩
      · exact .inr ⟨last, isLast, .inr inside⟩
      · rw [← before] at earlier
        rcases induction separate.of_append earlier with
          none | ⟨pair, member, place⟩
        · exact .inl none
        · exact .inr ⟨pair, List.mem_append_left _ member, place⟩
  · intro place
    rcases place with rfl | ⟨pair, member,
      ⟨behind, whole⟩ | ⟨inside, rfl, within⟩⟩
    · exact .here _
    · have reached := reach?_project separate row member
      rw [← whole] at reached
      exact (HasKeys.of_reach? reached (.here _)).of_append.of_append
    · exact .of_reach? (reach?_project separate row member) within

/-! ## Order -/

/-- Values are put at places beside each other in either order. -/
theorem insertAlong_comm {segments other : List String}
    (apart : ¬ segments <+: other) (apart' : ¬ other <+: segments)
    (value old : Json) (members : Members) :
    insertAlong value segments (insertAlong old other members) =
      insertAlong old other (insertAlong value segments members) := by
  induction segments generalizing other members with
  | nil => exact absurd List.nil_prefix apart
  | cons segment rest induction =>
    cases other with
    | nil => exact absurd List.nil_prefix apart'
    | cons key more =>
      rw [insertAlong_cons, insertAlong_cons, insertAlong_cons, insertAlong_cons]
      by_cases same : segment = key
      · subst same
        rw [List.prefix_cons_inj] at apart apart'
        have inside : rest ≠ [] := by
          rintro rfl
          exact apart List.nil_prefix
        have inside' : more ≠ [] := by
          rintro rfl
          exact apart' List.nil_prefix
        simp only [placedAt, inside, inside', if_false,
          membersAt_set_self, Keyed.set_set]
        rw [induction apart apart']
      · rw [membersAt_set_of_ne same, membersAt_set_of_ne (Ne.symm same),
          Keyed.set_comm same]

theorem project_perm {select other : List SelectPath}
    (separate : SeparateTargets select) (perm : select.Perm other) (row : Json) :
    row.project other = row.project select := by
  rw [project, project]
  apply congrArg
  apply perm.symm.foldl_eq'
  intro first firstMember second secondMember members
  have firstSelected := perm.mem_iff.mpr firstMember
  have secondSelected := perm.mem_iff.mpr secondMember
  by_cases same : first.target = second.target
  · rw [same, separate.single first firstSelected second secondSelected same]
  · apply insertAlong_comm
    · exact separate.not_prefix secondSelected firstSelected (Ne.symm same)
    · exact separate.not_prefix firstSelected secondSelected same

/-- When no target stands twice or lies under another one, every selected value
can be read back at its target, every key of the result leads towards a target
or into the value that stands there, and the pairs may come in any order. -/
theorem project_holds_selected {select : List SelectPath}
    (once : (select.map SelectPath.target).Nodup)
    (apart : Apart (select.map SelectPath.target)) (row : Json) :
    (∀ pair ∈ select,
      (row.project select).lookup pair.target = row.lookup pair.source) ∧
      (∀ keys, (row.project select).HasKeys keys ↔ keys = [] ∨ ∃ pair ∈ select,
        keys <+: Path.segments pair.target ∨
          ∃ inside, keys = Path.segments pair.target ++ inside ∧
            (row.lookup pair.source).HasKeys inside) ∧
      ∀ other, select.Perm other → row.project other = row.project select := by
  have separate : SeparateTargets select := by
    constructor
    · intro first firstMember second secondMember same
      rw [List.inj_on_of_nodup_map once firstMember secondMember same]
    · exact apart
  refine ⟨?_, hasKeys_project_iff separate row, ?_⟩
  · intro pair member
    rw [lookup_project]
    exact follow_of_reach? (reach?_project separate row member)
  · intro other perm
    exact project_perm separate perm row

def clerk : Json :=
  .object [("name", .string "Ann"),
    ("roles", .array [.object [("level", .ofNat 1), ("title", .string "clerk")]])]

def cardSelect : List SelectPath :=
  [⟨"name", "card.holder.name"⟩, ⟨"roles", "card.roles"⟩, ⟨"phone", "phone"⟩]

theorem card_of_clerk :
    (clerk.project cardSelect).lookup "card.roles" = clerk.lookup "roles" ∧
      (clerk.project cardSelect).HasKeys ["card", "roles", "level"] ∧
      ¬ (clerk.project cardSelect).HasKeys ["card", "name"] ∧
      clerk.project cardSelect.reverse = clerk.project cardSelect := by
  have once : (cardSelect.map SelectPath.target).Nodup := by decide
  have apart : Apart (cardSelect.map SelectPath.target) := by decide
  rcases project_holds_selected once apart clerk with ⟨read, keys, order⟩
  refine ⟨read ⟨"roles", "card.roles"⟩ (by decide), ?_, ?_,
    order _ (List.reverse_perm _).symm⟩
  · apply (keys _).mpr
    right
    refine ⟨⟨"roles", "card.roles"⟩, by decide, .inr ⟨["level"], by decide, ?_⟩⟩
    exact .item List.mem_cons_self (.member rfl (.here _))
  · have holder : Path.segments "card.holder.name" =
      ["card", "holder", "name"] := by decide
    have roles : Path.segments "card.roles" = ["card", "roles"] := by decide
    have phone : Path.segments "phone" = ["phone"] := by decide
    rw [keys]
    simp [cardSelect, holder, roles, phone]

end Json

end CriteriaQuery
