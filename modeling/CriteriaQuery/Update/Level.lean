import CriteriaQuery.Model.Projection
import CriteriaQuery.Store.Basic

namespace CriteriaQuery

/-! The levels of an update. A level is the relation that the source of a leaf
lies in; the leaf names a field of the entity there. Leaves without a relation
belong to the root entity. -/

structure Level where
  relation : String
  id : Option Json
  /-- Fields and their new values, in declaration order. -/
  fields : List (String × Json)
  deriving Repr

namespace Level

def new (relation : String) : Level := ⟨relation, none, []⟩

def depth (level : Level) : Nat :=
  if level.relation = rootRelation then 0
  else (Path.segments level.relation).length

/-- Takes the value of a field into the level. Null says nothing; of several
identifiers the last one counts. -/
def add (idField field : String) (value : Json) (level : Level) : Level :=
  if value.isNull then level
  else if field = idField then { level with id := some value }
  else { level with fields := level.fields ++ [(field, value)] }

def change (relation : String) (update : Level → Level) : List Level → List Level
  | [] => [update (new relation)]
  | level :: rest =>
    if level.relation = relation then update level :: rest
    else level :: change relation update rest

def addLeaf (idField : String) (payload : Json) (levels : List Level)
    (leaf : Leaf) : List Level :=
  change ((Path.parent? leaf.source).getD rootRelation)
    (add idField (Path.leaf leaf.source) (payload.lookup leaf.target)) levels

/-- The levels of a payload, the root first and ancestors before what lies
under them. -/
def ofPayload (idField : String) (model : Model) (payload : Json) : List Level :=
  (model.leaves.foldl (addLeaf idField payload) [new rootRelation]).mergeSort
    fun left right => left.depth ≤ right.depth

end Level

structure ActiveLevel where
  relation : String
  id : Json
  fields : List (String × Json)
  deriving Repr

namespace Level

/-- Tells the levels to write from the skipped ones. A level without an
identifier is skipped, and so is every level under a skipped one. -/
def separate (skipped : List String) : List Level → List ActiveLevel × List String
  | [] => ([], skipped)
  | level :: rest =>
    match level.id with
    | some id =>
      if skipped.any (Path.isBelow level.relation) then
        separate (skipped ++ [level.relation]) rest
      else
        let (active, skipped) := separate skipped rest
        (⟨level.relation, id, level.fields⟩ :: active, skipped)
    | none => separate (skipped ++ [level.relation]) rest

end Level

end CriteriaQuery
