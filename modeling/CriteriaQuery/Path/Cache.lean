import CriteriaQuery.Path.Basic

namespace CriteriaQuery

/-! A resolver keeps what it found out about the paths it was asked for, up to
a number of paths. What it answers does not depend on what it keeps. -/

/-- A path resolver with the paths resolved so far, the latest first. A path
that crosses no boundary is kept too. -/
structure PathResolver where
  isEmbedded : String → Bool
  capacity : Nat
  positive : 0 < capacity
  cached : List (String × Option NestedPath)

namespace PathResolver

def defaultCapacity : Nat := 4096

def withCapacity (isEmbedded : String → Bool) (capacity : Nat) : PathResolver :=
  ⟨isEmbedded, max capacity 1, by omega, []⟩

def new (isEmbedded : String → Bool) : PathResolver :=
  withCapacity isEmbedded defaultCapacity

/-- Resolves a path. A path that is not kept yet is added; when there is no
room, all others are dropped first. -/
def resolve (resolver : PathResolver) (path : String) :
    Option NestedPath × PathResolver :=
  match resolver.cached.lookup path with
  | some found => (found, resolver)
  | none =>
    let found := Path.nesting? resolver.isEmbedded path
    let kept :=
      if resolver.capacity ≤ resolver.cached.length then [] else resolver.cached
    (found, { resolver with cached := (path, found) :: kept })

def cachedCount (resolver : PathResolver) : Nat := resolver.cached.length

end PathResolver

end CriteriaQuery
