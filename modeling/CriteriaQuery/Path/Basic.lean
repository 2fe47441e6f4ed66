import CriteriaQuery.Text.Basic

namespace CriteriaQuery

/-! Dotted field paths. -/

namespace Path

def segments (path : String) : List String := Text.split '.' path

def leaf (path : String) : String :=
  String.ofList (path.toList.reverse.takeWhile (· != '.')).reverse

def parent? (path : String) : Option String :=
  match path.toList.reverse.dropWhile (· != '.') with
  | [] => none
  | _ :: before =>
    if before.isEmpty then none else some (String.ofList before.reverse)

/-- A path as seen from the boundary `scope` above it. A path that does not lie
under the boundary is unchanged. -/
def relativeTo (path scope : String) : String :=
  match Text.after? scope.toList path.toList with
  | some ('.' :: rest) => String.ofList rest
  | _ => path

def isBelow (path ancestor : String) : Bool :=
  ancestor != "" && match Text.after? ancestor.toList path.toList with
    | some ('.' :: _) => true
    | _ => false

def join (start rest : String) : String :=
  if start = "" then rest else if rest = "" then start else start ++ "." ++ rest

example : leaf "roles.auth.name" = "name" ∧ leaf "roles." = "" := by decide
example :
    parent? "roles.auth.name" = some "roles.auth" ∧ parent? ".x" = none := by
  decide
example : relativeTo "roles.name" "roles" = "name" := by decide
example : relativeTo "rolesx.a" "roles" = "rolesx.a" := by decide

end Path

structure FieldKey where
  /-- The path, with a dot for every left-join marker. -/
  path : String
  leftJoin : Bool
  deriving DecidableEq, Repr

namespace FieldKey

def parse (key : String) (marker : Char) : FieldKey :=
  let key := Text.trim key
  ⟨Text.replace marker '.' key, key.toList.contains marker⟩

def parent? (key : FieldKey) : Option String := Path.parent? key.path

example : parse " department<id " '<' = ⟨"department.id", true⟩ := by decide

end FieldKey

/-! ## Boundaries

A dotted path crosses a boundary at every segment but the last: into a
related entity or a sub-document. Paths that start in an embedded object are
matched directly and cross none. -/

structure NestedPath where
  fullPath : String
  /-- The paths of the boundaries, outermost first. -/
  boundaries : List String
  deriving DecidableEq, Repr

namespace NestedPath

def innermost? (path : NestedPath) : Option String := path.boundaries.getLast?

def leaf (path : NestedPath) : String := Path.leaf path.fullPath

def depth (path : NestedPath) : Nat := path.boundaries.length

end NestedPath

namespace Path

/-- A boundary extended by a segment; no dot follows the empty boundary. -/
def extend (boundary segment : String) : String :=
  if boundary = "" then segment else boundary ++ "." ++ segment

def boundariesFrom (boundary : String) : List String → List String
  | [] => []
  | [_] => []
  | segment :: rest =>
    let next := extend boundary segment
    next :: boundariesFrom next rest

/-- The boundaries that a path crosses. A path of one segment crosses none, and
neither does one whose first segment is embedded. -/
def nesting? (isEmbedded : String → Bool) (path : String) : Option NestedPath :=
  match segments path with
  | first :: second :: rest =>
    if isEmbedded first then none
    else some ⟨path, boundariesFrom "" (first :: second :: rest)⟩
  | _ => none

def startsEmbedded (isEmbedded : String → Bool) (path : String) : Bool :=
  (segments path).head?.any isEmbedded

example :
    (nesting? (fun _ => false) "a.b.c").map NestedPath.boundaries =
      some ["a", "a.b"] := by
  decide
example : nesting? (· == "a") "a.b.c" = none := by decide
example :
    (nesting? (fun _ => false) "..x").map NestedPath.boundaries =
      some ["", ""] := by
  decide

end Path

end CriteriaQuery
