import CriteriaQuery.Json.Numeral

namespace CriteriaQuery.Json

/-! Reading of JSON text, one character at a time. The reader keeps the arrays
and objects that are still open, what may come next among them, and the token
in progress. -/

/-- A container that is still open: the items so far, latest first, or the
members so far with the key whose value is being read. -/
inductive Frame where
  | items (done : List Json)
  | members (done : Members) (key : String)

inductive Expected where
  | value
  | firstItem
  | firstKey
  | key
  | colon
  | separator
  | finish
  deriving DecidableEq

inductive Token where
  | none
  | string (done : List Char)
  | escape (done : List Char)
  | unicode (done : List Char) (high : Option Nat) (value digits : Nat)
  | lowEscape (done : List Char) (high : Nat) (sawBackslash : Bool)
  | word (done : List Char)

structure Reader where
  frames : List Frame
  expected : Expected
  token : Token
  result : Option Json

namespace Reader

def start : Reader := ⟨[], .value, .none, none⟩

def accept (reader : Reader) (value : Json) : Option Reader :=
  if reader.expected = .value ∨ reader.expected = .firstItem then
    match reader.frames with
    | [] => some ⟨[], .finish, .none, some value⟩
    | .items done :: rest =>
      some ⟨.items (value :: done) :: rest, .separator, .none, none⟩
    | .members done key :: rest =>
      some ⟨.members (Keyed.set key value done) "" :: rest,
        .separator, .none, none⟩
  else none

def acceptText (reader : Reader) (text : String) : Option Reader :=
  if reader.expected = .key ∨ reader.expected = .firstKey then
    match reader.frames with
    | .members done _ :: rest =>
      some ⟨.members done text :: rest, .colon, .none, none⟩
    | _ => none
  else accept reader (.string text)

def close (reader : Reader) (value : Json) (rest : List Frame) : Option Reader :=
  accept { reader with frames := rest, expected := .value } value

def wordValue? (word : List Char) : Option Json :=
  if word = "null".toList then some .null
  else if word = "true".toList then some (.bool true)
  else if word = "false".toList then some (.bool false)
  else (Numeral.number? word).map .number

def unescaped? : Char → Option Char
  | '"' => some '"'
  | '\\' => some '\\'
  | '/' => some '/'
  | 'b' => some '\x08'
  | 'f' => some '\x0c'
  | 'n' => some '\n'
  | 'r' => some '\r'
  | 't' => some '\t'
  | _ => none

/-- A finished escape by code: a character, or the first half of one. -/
def acceptCode (reader : Reader) (done : List Char) (high : Option Nat)
    (code : Nat) : Option Reader :=
  match high with
  | some high =>
    if 0xDC00 ≤ code ∧ code < 0xE000 then
      let value := 0x10000 + (high - 0xD800) * 0x400 + (code - 0xDC00)
      some { reader with token := .string (Char.ofNat value :: done) }
    else none
  | none =>
    if 0xD800 ≤ code ∧ code < 0xDC00 then
      some { reader with token := .lowEscape done code false }
    else if 0xDC00 ≤ code ∧ code < 0xE000 then none
    else some { reader with token := .string (Char.ofNat code :: done) }

def between (reader : Reader) (c : Char) : Option Reader :=
  if c = ' ' ∨ c = '\t' ∨ c = '\n' ∨ c = '\r' then some reader
  else
    match c, reader.expected, reader.frames with
    | '[', .value, frames | '[', .firstItem, frames =>
      some { reader with frames := .items [] :: frames, expected := .firstItem }
    | '\x7b', .value, frames | '\x7b', .firstItem, frames =>
      some { reader with
        frames := .members [] "" :: frames
        expected := .firstKey }
    | ']', .firstItem, .items done :: rest
    | ']', .separator, .items done :: rest =>
      close reader (.array done.reverse) rest
    | '\x7d', .firstKey, .members done _ :: rest
    | '\x7d', .separator, .members done _ :: rest =>
      close reader (.object done) rest
    | ',', .separator, .items _ :: _ => some { reader with expected := .value }
    | ',', .separator, .members _ _ :: _ => some { reader with expected := .key }
    | ':', .colon, _ => some { reader with expected := .value }
    | '"', expected, _ =>
      if expected = .colon ∨ expected = .separator ∨ expected = .finish then none
      else some { reader with token := .string [] }
    | c, .value, _ | c, .firstItem, _ => some { reader with token := .word [c] }
    | _, _, _ => none

def isWordCharacter (c : Char) : Bool :=
  c.isAlphanum || c = '+' || c = '-' || c = '.'

def step (reader : Reader) (c : Char) : Option Reader :=
  match reader.token with
  | .none => between reader c
  | .word done =>
    if isWordCharacter c then some { reader with token := .word (c :: done) }
    else
      match wordValue? done.reverse with
      | none => none
      | some value =>
        match accept reader value with
        | none => none
        | some next => between next c
  | .string done =>
    if c = '"' then acceptText reader (String.ofList done.reverse)
    else if c = '\\' then some { reader with token := .escape done }
    else if c.toNat < 0x20 then none
    else some { reader with token := .string (c :: done) }
  | .escape done =>
    if c = 'u' then some { reader with token := .unicode done none 0 0 }
    else (unescaped? c).map fun c => { reader with token := .string (c :: done) }
  | .unicode done high value digits =>
    match Text.hexValue? c with
    | none => none
    | some digit =>
      let value := value * 16 + digit
      if digits = 3 then acceptCode reader done high value
      else some { reader with token := .unicode done high value (digits + 1) }
  | .lowEscape done high sawBackslash =>
    if !sawBackslash && c = '\\' then
      some { reader with token := .lowEscape done high true }
    else if sawBackslash && c = 'u' then
      some { reader with token := .unicode done (some high) 0 0 }
    else none

def run : Reader → List Char → Option Reader
  | reader, [] => some reader
  | reader, c :: rest =>
    match step reader c with
    | none => none
    | some next => run next rest

end Reader

def ofText? (text : String) : Option Json :=
  match Reader.run Reader.start (text.toList ++ ['\n']) with
  | some reader => reader.result
  | none => none

example : ofText? "[1, -2" = none := by decide +kernel

end CriteriaQuery.Json
