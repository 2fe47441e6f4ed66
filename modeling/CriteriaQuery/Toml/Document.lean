import CriteriaQuery.Toml.Scalar
import CriteriaQuery.Toml.Token

namespace CriteriaQuery.Toml

/-! Reading of a TOML document, one token at a time. -/

/-- How many arrays and braces may stand inside one another, and how many parts a
key may have. -/
def maxDepth : Nat := 80

/-- A value that is still open: the items so far, latest first, or the entries so
far with the key whose value is being read. -/
inductive Frame where
  | items (done : List Value)
  | entries (done : Entries) (key : List String)

/-- What may come next. Parts of a key are kept latest first. -/
inductive Phase where
  | lineStart
  /-- After the bracket that begins a line; a second one may follow at once. -/
  | opening
  | headerKey (several : Bool) (done : List String)
  | headerNext (several : Bool) (done : List String)
  /-- After the first of two closing brackets. -/
  | closing (done : List String)
  | key (done : List String)
  | keyNext (done : List String)
  /-- After a newline behind a key. -/
  | equals (done : List String)
  | entry
  | value
  | word (text : List Char)
  /-- A word with a blank behind it, which may be a date before its time. -/
  | spaced (text : List Char)
  | finished

structure Document where
  phase : Phase
  root : Entries
  table : List String
  key : List String
  frames : List Frame

namespace Document

def start : Document := ⟨.lineStart, [], [], [], []⟩

def go (document : Document) (phase : Phase) : Option Document :=
  some { document with phase }

/-! ## Keys -/

def isKeyCharacter (c : Char) : Bool := c.isAlphanum || c = '_' || c = '-'

def keyText? : Token → Option String
  | .word text =>
    if text.all isKeyCharacter then some (String.ofList text) else none
  | .string text false => some (String.ofList text)
  | _ => none

def extendKey (document : Document) (done : List String)
    (phase : List String → Phase) (token : Token) : Option Document :=
  (keyText? token).bind fun key =>
    if done.length < maxDepth then document.go (phase (key :: done)) else none

def openHeader (document : Document) (change : String → Entries → Option Entries)
    (done : List String) : Option Document :=
  match done with
  | [] => none
  | key :: parents =>
    (descend? .parent (fun _ => change key) parents.reverse .header
      document.root).map fun root =>
      { document with phase := .finished, root, table := done.reverse }

def assign (document : Document) (done : List String) : Option Document :=
  match document.frames with
  | [] => some { document with phase := .value, key := done }
  | .entries entries _ :: rest =>
    some { document with
      phase := .value, frames := .entries entries done :: rest }
  | .items _ :: _ => none

/-! ## Values -/

def accept (document : Document) (value : Value) : Option Document :=
  match document.frames with
  | [] =>
    (descend? .parent (insert? document.key value) document.table .header
      document.root).map fun root =>
      { document with phase := .finished, root }
  | .items done :: rest =>
    some { document with
      phase := .finished, frames := .items (value :: done) :: rest }
  | .entries done key :: rest =>
    (insert? key value .inline done).map fun done =>
      { document with phase := .finished, frames := .entries done [] :: rest }

def openFrame (document : Document) (frame : Frame) (phase : Phase) :
    Option Document :=
  if document.frames.length < maxDepth then
    some { document with phase, frames := frame :: document.frames }
  else none

def closeFrame (document : Document) (c : Char) : Option Document :=
  match c, document.frames with
  | ']', .items done :: rest =>
    accept { document with frames := rest } (.array done.reverse)
  | '\x7d', .entries done _ :: rest =>
    accept { document with frames := rest } (.table .inline done)
  | _, _ => none

def separate (document : Document) : Option Document :=
  match document.frames with
  | [] => none
  | .items _ :: _ => document.go .value
  | .entries _ _ :: _ => document.go .entry

def newlineInside (document : Document) (phase : Phase) : Option Document :=
  if document.frames.isEmpty then none else document.go phase

/-! ## Tokens -/

def stepPlain (document : Document) (token : Token) : Option Document :=
  match document.phase, token with
  | phase, .mark ' ' | phase, .mark '\t' => document.go phase
  | .lineStart, .newline => document.go .lineStart
  | .lineStart, .mark '[' => document.go .opening
  | .lineStart, token => document.extendKey [] .keyNext token
  | .headerKey several done, token =>
    document.extendKey done (.headerNext several) token
  | .headerNext several done, .mark '.' => document.go (.headerKey several done)
  | .headerNext false done, .mark ']' => document.openHeader openTable? done
  | .headerNext true done, .mark ']' => document.go (.closing done)
  | .key done, token => document.extendKey done .keyNext token
  | .keyNext done, .mark '.' => document.go (.key done)
  | .keyNext done, .mark '=' | .equals done, .mark '=' => document.assign done
  | .keyNext done, .newline | .equals done, .newline =>
    document.newlineInside (.equals done)
  | .entry, .newline => document.go .entry
  | .entry, .mark '\x7d' => document.closeFrame '\x7d'
  | .entry, token => document.extendKey [] .keyNext token
  | .value, .newline => document.newlineInside .value
  | .value, .mark '[' => document.openFrame (.items []) .value
  | .value, .mark '\x7b' => document.openFrame (.entries [] []) .entry
  | .value, .mark ']' => document.closeFrame ']'
  | .value, .string text _ => document.accept (.string (String.ofList text))
  | .value, .word text => document.go (.word text)
  | .finished, .newline =>
    document.go (if document.frames.isEmpty then .lineStart else .finished)
  | .finished, .mark ',' => document.separate
  | .finished, .mark c => document.closeFrame c
  | _, _ => none

def finishWord (document : Document) (text : List Char) (token : Token) :
    Option Document := do
  let value ← scalar? text
  let document ← document.accept value
  document.stepPlain token

def step (document : Document) (token : Token) : Option Document :=
  match document.phase, token with
  | .opening, .mark '[' => document.go (.headerKey true [])
  | .opening, token =>
    stepPlain { document with phase := .headerKey false [] } token
  | .closing done, .mark ']' => document.openHeader openNext? done
  | .closing _, _ => none
  | .word text, .word more => document.go (.word (text ++ more))
  | .word text, .mark '.' => document.go (.word (text ++ ['.']))
  | .word text, .mark ' ' => document.go (.spaced text)
  | .spaced text, .word more => document.go (.word (text ++ ' ' :: more))
  | .word text, token | .spaced text, token => document.finishWord text token
  | _, token => document.stepPlain token

def run : Document → List Token → Option Document
  | document, [] => some document
  | document, token :: rest =>
    match step document token with
    | none => none
    | some next => run next rest

end Document

def ofText? (text : String) : Option Entries :=
  match tokens? text with
  | none => none
  | some tokens =>
    match Document.run .start tokens with
    | some ⟨.lineStart, root, _, _, _⟩ => some root
    | _ => none

example : (ofText? "[a]\nb.c = 1\n[a.b.d]\n[[e]]\n[[e]]\n").isSome := by
  decide +kernel
example :
    ["[a]\nb.c = 1\n[a.b]", "[a]\n[a]", "a = 1\na = 2", "[a.b]\n[a]\nb.c = 1",
      "a = \x7bb = 1\x7d\n[a.c]", "[[a]\n]", "[a]]", "a = [1 2]",
      "a = 1 b = 2"].all fun text => (ofText? text).isNone := by
  decide +kernel

end CriteriaQuery.Toml
