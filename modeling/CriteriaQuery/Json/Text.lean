import CriteriaQuery.Json.Basic
import CriteriaQuery.Double.Text

namespace CriteriaQuery

/-! The compact text of a JSON value: no blanks, members in the order of their
keys, and only quotes, backslashes and control characters escaped. -/

def Json.quotedCharacter (c : Char) : List Char :=
  match c with
  | '"' => ['\\', '"']
  | '\\' => ['\\', '\\']
  | '\x08' => ['\\', 'b']
  | '\x0c' => ['\\', 'f']
  | '\n' => ['\\', 'n']
  | '\r' => ['\\', 'r']
  | '\t' => ['\\', 't']
  | c =>
    if c.toNat < 0x20 then
      ['\\', 'u', '0', '0', Nat.digitChar (c.toNat / 16),
        Nat.digitChar (c.toNat % 16)]
    else [c]

def Json.quoted (text : String) : List Char :=
  '"' :: (text.toList.flatMap quotedCharacter ++ ['"'])

def integerText (value : Int) : List Char :=
  if value < 0 then '-' :: Text.decimal value.natAbs
  else Text.decimal value.natAbs

def Number.text : Number → List Char
  | .integer value _ _ => integerText value
  | .float value => value.text

namespace Json

mutual

def characters : Json → List Char
  | .null => ['n', 'u', 'l', 'l']
  | .bool true => ['t', 'r', 'u', 'e']
  | .bool false => ['f', 'a', 'l', 's', 'e']
  | .number value => value.text
  | .string value => quoted value
  | .array items => '[' :: (itemCharacters items ++ [']'])
  | .object members => '{' :: (memberCharacters members ++ ['}'])

def itemCharacters : List Json → List Char
  | [] => []
  | [item] => item.characters
  | item :: rest => item.characters ++ ',' :: itemCharacters rest

def memberCharacters : List (String × Json) → List Char
  | [] => []
  | [(key, value)] => quoted key ++ ':' :: value.characters
  | (key, value) :: rest =>
    quoted key ++ ':' :: (value.characters ++ ',' :: memberCharacters rest)

end

def text (value : Json) : String := String.ofList value.characters

def plainText : Json → String
  | .string value => value
  | value => value.text

example :
    (ofMembers [("b", .array [ofNat 1, .null]), ("a", .string "x\n")]).text =
    "\x7b\"a\":\"x\\n\",\"b\":[1,null]\x7d" := by decide +kernel

end Json

end CriteriaQuery
