import CriteriaQuery.Path.Cache

namespace CriteriaQuery.PathResolver

/-! What a resolver keeps is what it would find out again, so its answers do not
depend on what it was asked before. It never keeps more than it has room for. -/

def IsFaithful (resolver : PathResolver) : Prop :=
  ∀ entry ∈ resolver.cached, entry.2 = Path.nesting? resolver.isEmbedded entry.1

def after (resolver : PathResolver) (paths : List String) : PathResolver :=
  paths.foldl (fun resolver path => (resolver.resolve path).2) resolver

theorem isFaithful_withCapacity (isEmbedded : String → Bool) (capacity : Nat) :
    (withCapacity isEmbedded capacity).IsFaithful := nofun

variable {resolver : PathResolver}

theorem IsFaithful.resolve_fst (faithful : resolver.IsFaithful) (path : String) :
    (resolver.resolve path).1 = Path.nesting? resolver.isEmbedded path := by
  unfold resolve
  cases kept : resolver.cached.lookup path with
  | none => rfl
  | some found =>
    obtain ⟨before, further, entries, -⟩ := List.lookup_eq_some_iff.mp kept
    refine faithful (path, found) ?_
    rw [entries]
    exact List.mem_append_right _ List.mem_cons_self

theorem isEmbedded_resolve (resolver : PathResolver) (path : String) :
    (resolver.resolve path).2.isEmbedded = resolver.isEmbedded := by
  unfold resolve
  cases resolver.cached.lookup path <;> rfl

theorem IsFaithful.resolve_snd (faithful : resolver.IsFaithful) (path : String) :
    (resolver.resolve path).2.IsFaithful := by
  unfold resolve
  cases resolver.cached.lookup path with
  | some found => exact faithful
  | none =>
    intro entry member
    rcases List.mem_cons.mp member with rfl | kept
    · rfl
    · refine faithful entry ?_
      split at kept
      · cases kept
      · exact kept

/-- What one resolution preserves holds after any number of them. -/
theorem after_preserves {motive : PathResolver → Prop}
    (step : ∀ resolver path, motive resolver → motive (resolver.resolve path).2)
    (start : motive resolver) (paths : List String) :
    motive (resolver.after paths) := by
  induction paths generalizing resolver with
  | nil => exact start
  | cons path rest induction => exact induction (step resolver path start)

theorem isEmbedded_after (resolver : PathResolver) (paths : List String) :
    (resolver.after paths).isEmbedded = resolver.isEmbedded :=
  after_preserves (motive := fun later => later.isEmbedded = resolver.isEmbedded)
    (fun later path same => (later.isEmbedded_resolve path).trans same) rfl paths

theorem IsFaithful.after (faithful : resolver.IsFaithful) (paths : List String) :
    (resolver.after paths).IsFaithful :=
  after_preserves (fun _ path faithful => faithful.resolve_snd path)
    faithful paths

theorem resolve_after_withCapacity (isEmbedded : String → Bool) (capacity : Nat)
    (earlier : List String) (path : String) :
    (((withCapacity isEmbedded capacity).after earlier).resolve path).1 =
      Path.nesting? isEmbedded path := by
  rw [((isFaithful_withCapacity isEmbedded capacity).after earlier).resolve_fst
    path, isEmbedded_after]
  rfl

/-! ## Room for paths -/

structure Fits (resolver : PathResolver) : Prop where
  distinct : (resolver.cached.map Prod.fst).Nodup
  bounded : resolver.cachedCount ≤ resolver.capacity

theorem fits_withCapacity (isEmbedded : String → Bool) (capacity : Nat) :
    (withCapacity isEmbedded capacity).Fits where
  distinct := List.nodup_nil
  bounded := Nat.zero_le _

theorem capacity_resolve (resolver : PathResolver) (path : String) :
    (resolver.resolve path).2.capacity = resolver.capacity := by
  unfold resolve
  cases resolver.cached.lookup path <;> rfl

/-- A path that was asked for is kept with the answer, until it is dropped. -/
theorem lookup_cached_resolve (resolver : PathResolver) (path : String) :
    (resolver.resolve path).2.cached.lookup path =
      some (resolver.resolve path).1 := by
  unfold resolve
  cases kept : resolver.cached.lookup path with
  | some found => exact kept
  | none => exact List.lookup_cons_self

theorem Fits.resolve (fits : resolver.Fits) (path : String) :
    (resolver.resolve path).2.Fits := by
  unfold PathResolver.resolve
  cases kept : resolver.cached.lookup path with
  | some found => exact fits
  | none =>
    have absent : path ∉ resolver.cached.map Prod.fst := by
      intro member
      obtain ⟨⟨key, found⟩, inside, rfl⟩ := List.mem_map.mp member
      exact absurd (List.lookup_eq_none_iff.mp kept _ inside) (by simp)
    have positive := resolver.positive
    by_cases full : resolver.capacity ≤ resolver.cached.length
    · rw [if_pos full]
      exact ⟨by simp, positive⟩
    · rw [if_neg full]
      exact ⟨List.nodup_cons.mpr ⟨absent, fits.distinct⟩, Nat.not_le.mp full⟩

theorem capacity_after (resolver : PathResolver) (paths : List String) :
    (resolver.after paths).capacity = resolver.capacity :=
  after_preserves (motive := fun later => later.capacity = resolver.capacity)
    (fun later path same => (later.capacity_resolve path).trans same) rfl paths

theorem Fits.after (fits : resolver.Fits) (paths : List String) :
    (resolver.after paths).Fits :=
  after_preserves (fun _ path fits => fits.resolve path) fits paths

/-- Each answer of a resolver, in whatever order and however often it is asked,
is the nesting of the path. The path is kept with its answer then, each path is
kept once, and no more paths are kept than the capacity, which is at least
one. -/
theorem resolves_as_uncached_within_capacity (isEmbedded : String → Bool)
    (capacity : Nat) (earlier : List String) (path : String) :
    let (answer, resolver) :=
      ((withCapacity isEmbedded capacity).after earlier).resolve path
    answer = Path.nesting? isEmbedded path ∧
      resolver.cached.lookup path = some answer ∧
      (resolver.cached.map Prod.fst).Nodup ∧
      resolver.cachedCount ≤ max capacity 1 := by
  let before := (withCapacity isEmbedded capacity).after earlier
  have fits :=
    ((fits_withCapacity isEmbedded capacity).after earlier).resolve path
  have room : (before.resolve path).2.capacity = max capacity 1 :=
    (before.capacity_resolve path).trans (capacity_after _ earlier)
  exact ⟨resolve_after_withCapacity isEmbedded capacity earlier path,
    before.lookup_cached_resolve path, fits.distinct, room ▸ fits.bounded⟩

example : ((withCapacity (fun _ => false) 0).after ["a.b", "age", "a.b"]).cached =
    [("a.b", some ⟨"a.b", ["a"]⟩)] := by decide

end CriteriaQuery.PathResolver
