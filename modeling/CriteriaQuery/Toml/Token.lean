import CriteriaQuery.Text.Numeral

namespace CriteriaQuery.Toml

/-! The tokens of a TOML text, read one character at a time. Comments leave no
token. -/

inductive Token where
  | newline
  | mark (c : Char)
  /-- Characters without quotes: a bare key, a flag, or a part of a number or of
  a date. -/
  | word (text : List Char)
  /-- A text in quotes. One that may go over several lines is a block. -/
  | string (text : List Char) (block : Bool)
  deriving DecidableEq, Repr

structure Quoting where
  mark : Char
  block : Bool

inductive Progress where
  | none
  | comment
  | word (done : List Char)
  | opening (mark : Char) (twice : Bool)
  /-- The three marks that begin a block. A newline right after them is
  dropped. -/
  | blockStart (mark : Char)
  /-- The text so far, and how many marks in a row stand at its end. -/
  | string (quoting : Quoting) (done : List Char) (marks : Nat)
  | escape (block : Bool) (done : List Char)
  | code (block : Bool) (done : List Char) (value missing : Nat)
  /-- Blanks after a backslash at the end of a line; they are dropped up to the
  next text. -/
  | gap (done : List Char) (sawNewline : Bool)

structure Lexer where
  progress : Progress
  tokens : List Token

def isForbidden (c : Char) : Bool :=
  (c.toNat < 0x20 && c ≠ '\t') || c.toNat = 0x7F

def isMark (c : Char) : Bool :=
  [' ', '\t', '.', ',', '=', '[', ']', '\x7b', '\x7d'].contains c

namespace Lexer

def go (lexer : Lexer) (progress : Progress) : Option Lexer :=
  some { lexer with progress }

def emit (lexer : Lexer) (token : Token) : Lexer := ⟨.none, token :: lexer.tokens⟩

def close (lexer : Lexer) (quoting : Quoting) (done : List Char) : Lexer :=
  lexer.emit (.string done.reverse quoting.block)

def between (lexer : Lexer) (c : Char) : Lexer :=
  if c = '\r' then lexer
  else if c = '\n' then lexer.emit .newline
  else if isMark c then lexer.emit (.mark c)
  else if c = '#' then { lexer with progress := .comment }
  else if c = '"' ∨ c = '\'' then { lexer with progress := .opening c false }
  else { lexer with progress := .word [c] }

/-- A character of a text in quotes. Up to two marks in a row belong to a block,
also right before the three that end it. -/
def within (lexer : Lexer) (quoting : Quoting) (done : List Char) (marks : Nat)
    (c : Char) : Option Lexer :=
  if c = quoting.mark then
    if !quoting.block then some (lexer.close quoting done)
    else if marks = 4 then some (lexer.close quoting (c :: c :: done))
    else lexer.go (.string quoting done (marks + 1))
  else if 3 ≤ marks then
    some (between
      (lexer.close quoting (List.replicate (marks - 3) quoting.mark ++ done)) c)
  else
    let done := List.replicate marks quoting.mark ++ done
    if c = '\\' ∧ quoting.mark = '"' then lexer.go (.escape quoting.block done)
    else if isForbidden c && !(quoting.block && (c = '\n' || c = '\r')) then none
    else lexer.go (.string quoting (c :: done) 0)

def escaped (lexer : Lexer) (block : Bool) (done : List Char) (c : Char) :
    Option Lexer :=
  let put (c : Char) : Option Lexer :=
    lexer.go (.string ⟨'"', block⟩ (c :: done) 0)
  match c with
  | 'b' => put '\x08'
  | 't' => put '\t'
  | 'n' => put '\n'
  | 'f' => put '\x0c'
  | 'r' => put '\r'
  | 'e' => put '\x1b'
  | '"' => put '"'
  | '\\' => put '\\'
  | 'x' => lexer.go (.code block done 0 2)
  | 'u' => lexer.go (.code block done 0 4)
  | 'U' => lexer.go (.code block done 0 8)
  | c =>
    if block ∧ (c = ' ' ∨ c = '\t' ∨ c = '\r' ∨ c = '\n') then
      lexer.go (.gap done (c = '\n'))
    else none

def step (lexer : Lexer) (c : Char) : Option Lexer :=
  match lexer.progress with
  | .none => some (lexer.between c)
  | .comment =>
    if c = '\n' then some ({ lexer with progress := .none }.between c)
    else if isForbidden c && c ≠ '\r' then none
    else some lexer
  | .word done =>
    if isMark c || c = '#' || c = '\n' || c = '\r' then
      some ((lexer.emit (.word done.reverse)).between c)
    else lexer.go (.word (c :: done))
  | .opening mark false =>
    if c = mark then lexer.go (.opening mark true)
    else lexer.within ⟨mark, false⟩ [] 0 c
  | .opening mark true =>
    if c = mark then lexer.go (.blockStart mark)
    else some ((lexer.close ⟨mark, false⟩ []).between c)
  | .blockStart mark =>
    if c = '\r' then some lexer
    else if c = '\n' then lexer.go (.string ⟨mark, true⟩ [] 0)
    else lexer.within ⟨mark, true⟩ [] 0 c
  | .string quoting done marks => lexer.within quoting done marks c
  | .escape block done => lexer.escaped block done c
  | .code block done value missing =>
    match Text.hexValue? c with
    | none => none
    | some digit =>
      let value := value * 16 + digit
      if 1 < missing then lexer.go (.code block done value (missing - 1))
      else if value.isValidChar then
        lexer.go (.string ⟨'"', block⟩ (Char.ofNat value :: done) 0)
      else none
  | .gap done sawNewline =>
    if c = ' ' ∨ c = '\t' ∨ c = '\r' then some lexer
    else if c = '\n' then lexer.go (.gap done true)
    else if sawNewline then lexer.within ⟨'"', true⟩ done 0 c
    else none

def run : Lexer → List Char → Option Lexer
  | lexer, [] => some lexer
  | lexer, c :: rest =>
    match step lexer c with
    | none => none
    | some next => run next rest

end Lexer

def returnsEndLines : List Char → Bool
  | [] => true
  | c :: rest => (c ≠ '\r' || rest.head? = some '\n') && returnsEndLines rest

/-- The tokens of a text. A byte order mark may stand in front, and a newline ends
the last line. -/
def tokens? (text : String) : Option (List Token) :=
  let characters := match text.toList with
    | '\ufeff' :: rest => rest
    | characters => characters
  if returnsEndLines characters then
    match Lexer.run ⟨.none, []⟩ (characters ++ ['\n']) with
    | some ⟨.none, tokens⟩ => some tokens.reverse
    | _ => none
  else none

example : tokens? "a=\"\\x41\\e\"#" =
    some [.word ['a'], .mark '=', .string ['A', '\x1b'] false, .newline] := by
  decide +kernel
example :
    tokens? "''''a''''" = some [.string ['\'', 'a', '\''] true, .newline] := by
  decide +kernel
example : tokens? "a\r" = none ∧ tokens? "# \x7f" = none := by decide +kernel

end CriteriaQuery.Toml
