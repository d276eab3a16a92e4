import BrokerFleet.Json.Value
import BrokerFleet.Text.Number

/-! # Writing JSON

The compact form: no blanks, fields in the order of the object, and in texts only the quote, the
backslash and the control characters are escaped. -/

namespace BrokerFleet.Json

/-- The written form of one character inside a text. -/
def escape (c : Char) : List Char :=
  if c = '"' then ['\\', '"']
  else if c = '\\' then ['\\', '\\']
  else if c.toNat = 0x8 then ['\\', 'b']
  else if c.toNat = 0x9 then ['\\', 't']
  else if c.toNat = 0xA then ['\\', 'n']
  else if c.toNat = 0xC then ['\\', 'f']
  else if c.toNat = 0xD then ['\\', 'r']
  else if c.toNat < 0x20 then '\\' :: 'u' :: Text.padded 16 4 c.toNat
  else [c]

def quoted (s : String) : List Char := '"' :: s.toList.flatMap escape ++ ['"']

mutual

def chars : Json → List Char
  | null => ['n', 'u', 'l', 'l']
  | bool true => ['t', 'r', 'u', 'e']
  | bool false => ['f', 'a', 'l', 's', 'e']
  | int n => (toString n).toList
  | literal text => text.toList
  | str s => quoted s
  | arr [] => ['[', ']']
  | arr (v :: items) => '[' :: chars v ++ itemChars items
  | obj [] => ['{', '}']
  | obj ((k, v) :: fields) => '{' :: quoted k ++ ':' :: chars v ++ fieldChars fields

/-- The written form of the items after the first, with the closing bracket. -/
def itemChars : List Json → List Char
  | [] => [']']
  | v :: items => ',' :: chars v ++ itemChars items

/-- The written form of the fields after the first, with the closing brace. -/
def fieldChars : List (String × Json) → List Char
  | [] => ['}']
  | (k, v) :: fields => ',' :: quoted k ++ ':' :: chars v ++ fieldChars fields

end

/-- The compact text of a value. -/
def render (v : Json) : String := String.ofList v.chars

end BrokerFleet.Json
