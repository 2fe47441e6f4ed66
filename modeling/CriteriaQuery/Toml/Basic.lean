import CriteriaQuery.Double.Reading
import CriteriaQuery.Keyed

namespace CriteriaQuery.Toml

/-! The values of a TOML document. A table remembers how it came to be, since
that decides what may still be added to it. -/

inductive Origin where
  /-- Opened by a header of its own. -/
  | header
  /-- Named on the way to the table of a header. -/
  | parent
  /-- Named on the way of a dotted key. -/
  | dotted
  /-- Written between braces. -/
  | inline
  deriving DecidableEq, Repr

inductive Value where
  | bool (value : Bool)
  | integer (value : Int)
  /-- The mark of a base without digits after it. It has the form of an integer
  but spells none. -/
  | digitless (base : Nat)
  | decimal (negative : Bool) (digits : Nat) (exponent : Int)
  | infinity (negative : Bool)
  | notANumber
  | dateTime (text : String)
  | string (value : String)
  | array (items : List Value)
  | table (origin : Origin) (entries : List (String × Value))
  /-- Tables under one header that is given several times; the last one is
  still open. -/
  | tables (last : List (String × Value)) (earlier : List (List (String × Value)))
  deriving Repr

abbrev Entries := Keyed Value

/-! ## Growing tables -/

/-- A key that names the table on its way may go into it. A header goes into every
table that is not closed by braces, a dotted key only into one that no header
has opened. -/
def Origin.admits (origin way : Origin) : Bool :=
  match way with
  | .dotted => origin == .parent || origin == .dotted
  | _ => origin != .inline

/-- Changes the table at the end of a path. Tables that are missing on the way
are made; of several tables under one header the last one is meant. -/
def descend? (way : Origin) (change : Origin → Entries → Option Entries) :
    List String → Origin → Entries → Option Entries
  | [], origin, entries => change origin entries
  | key :: rest, _, entries =>
    match Keyed.get? key entries with
    | none =>
      (descend? way change rest way []).map fun inner =>
        Keyed.set key (.table way inner) entries
    | some (.table origin inner) =>
      if origin.admits way then
        (descend? way change rest origin inner).map fun inner =>
          Keyed.set key (.table origin inner) entries
      else none
    | some (.tables last earlier) =>
      (descend? way change rest .header last).map fun last =>
        Keyed.set key (.tables last earlier) entries
    | some _ => none

def put? (key : String) (value : Value) (entries : Entries) : Option Entries :=
  if (Keyed.get? key entries).isSome then none
  else some (Keyed.set key value entries)

/-- Puts a value at a dotted key, whose last part comes first. A table on the way
takes a value only if dotted keys made it. -/
def insert? (path : List String) (value : Value) :
    Origin → Entries → Option Entries :=
  match path with
  | [] => fun _ _ => none
  | [key] => fun _ entries => put? key value entries
  | key :: parents =>
    descend? .dotted
      (fun origin entries =>
        if origin = .dotted then put? key value entries else none)
      parents.reverse

def openTable? (key : String) (entries : Entries) : Option Entries :=
  match Keyed.get? key entries with
  | none => some (Keyed.set key (.table .header []) entries)
  | some (.table .parent inner) =>
    some (Keyed.set key (.table .header inner) entries)
  | some _ => none

def openNext? (key : String) (entries : Entries) : Option Entries :=
  match Keyed.get? key entries with
  | none => some (Keyed.set key (.tables [] []) entries)
  | some (.tables last earlier) =>
    some (Keyed.set key (.tables [] (last :: earlier)) entries)
  | some _ => none

/-! ## Numbers -/

mutual

def Value.isReadable : Value → Bool
  | .integer value => -(1 <<< 127) ≤ value && value < 1 <<< 128
  | .digitless _ => false
  | .decimal negative digits exponent =>
    (Double.ofDecimal? negative digits exponent).isSome
  | .array items => itemsReadable items
  | .table _ entries => entriesReadable entries
  | .tables last earlier => entriesReadable last && tablesReadable earlier
  | _ => true

def itemsReadable : List Value → Bool
  | [] => true
  | item :: rest => item.isReadable && itemsReadable rest

def entriesReadable : List (String × Value) → Bool
  | [] => true
  | (_, value) :: rest => value.isReadable && entriesReadable rest

def tablesReadable : List (List (String × Value)) → Bool
  | [] => true
  | entries :: rest => entriesReadable entries && tablesReadable rest

end

example :
    (Value.array
      [.integer ((1 <<< 128) - 1), .decimal false 1 308]).isReadable := by
  decide +kernel
example : ¬ (Value.integer (-(1 <<< 127) - 1)).isReadable := by decide +kernel
example :
    ¬ (Value.decimal true 1 309).isReadable ∧
    ¬ (Value.digitless 16).isReadable := by
  decide +kernel

end CriteriaQuery.Toml
