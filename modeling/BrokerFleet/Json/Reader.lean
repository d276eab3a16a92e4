import BrokerFleet.Json.Value
import BrokerFleet.Text.Number

/-! # Reading JSON

The grammar of RFC 8259: no trailing text and no control character inside a text. A whole number
outside 64 bits is kept as a literal, and so are texts that escape half of a surrogate pair and
objects with such a key: whoever asks for them finds neither a text nor an object. -/

namespace BrokerFleet.Json

/-- Whether a character may stand between tokens. -/
def isSpace (c : Char) : Bool := c == ' ' || c == '\n' || c == '\r' || c == '\t'

/-- A text without the blanks at its start. -/
def skipSpace (text : List Char) : List Char := text.dropWhile isSpace

def hexValue? (c : Char) : Option Nat :=
  if '0' ≤ c ∧ c ≤ '9' then some (c.toNat - 48)
  else if 'a' ≤ c ∧ c ≤ 'f' then some (c.toNat - 87)
  else if 'A' ≤ c ∧ c ≤ 'F' then some (c.toNat - 55)
  else none

/-- The character of a one-letter escape. -/
def letterEscape? (c : Char) : Option Char :=
  if c = '"' ∨ c = '\\' ∨ c = '/' then some c
  else if c = 'b' then some '\x08'
  else if c = 't' then some '\t'
  else if c = 'n' then some '\n'
  else if c = 'f' then some '\x0c'
  else if c = 'r' then some '\r'
  else none

/-- Where a reader stands inside a text: between characters, after a backslash, inside a
hexadecimal escape, or before the second half of a surrogate pair. -/
inductive TextState where
  | plain
  | escape
  | hex (missing value : Nat) (high : Option Nat)
  | lowBackslash (high : Nat)
  | lowLetter (high : Nat)

/-- The rest of a text up to its closing quote, and what follows the quote. -/
def textFrom : TextState → List Char → Option (List Char × List Char)
  | _, [] => none
  | .plain, c :: rest =>
    if c = '"' then some ([], rest)
    else if c = '\\' then textFrom .escape rest
    else if c.toNat < 0x20 then none
    else (textFrom .plain rest).map fun p => (c :: p.1, p.2)
  | .escape, c :: rest =>
    if c = 'u' then textFrom (.hex 4 0 none) rest
    else match letterEscape? c with
      | none => none
      | some d => (textFrom .plain rest).map fun p => (d :: p.1, p.2)
  | .lowBackslash high, c :: rest => if c = '\\' then textFrom (.lowLetter high) rest else none
  | .lowLetter high, c :: rest => if c = 'u' then textFrom (.hex 4 0 (some high)) rest else none
  | .hex missing value high, c :: rest =>
    match hexValue? c with
    | none => none
    | some d =>
      let value := value * 16 + d
      if missing > 1 then textFrom (.hex (missing - 1) value high) rest
      else match high with
        | none =>
          if 0xD800 ≤ value ∧ value < 0xDC00 then textFrom (.lowBackslash value) rest
          else if 0xDC00 ≤ value ∧ value < 0xE000 then none
          else (textFrom .plain rest).map fun p => (Char.ofNat value :: p.1, p.2)
        | some high =>
          if 0xDC00 ≤ value ∧ value < 0xE000 then
            let c := Char.ofNat (0x10000 + (high - 0xD800) * 0x400 + (value - 0xDC00))
            (textFrom .plain rest).map fun p => (c :: p.1, p.2)
          else none

/-- What follows a text after its closing quote, whatever characters its escapes name. -/
def afterText : List Char → Option (List Char)
  | [] => none
  | '"' :: rest => some rest
  | '\\' :: 'u' :: a :: b :: c :: d :: rest =>
    if [a, b, c, d].all fun x => (hexValue? x).isSome then afterText rest else none
  | '\\' :: c :: rest => if (letterEscape? c).isSome then afterText rest else none
  | c :: rest => if c.toNat < 0x20 then none else afterText rest

/-- The beginning of a text up to a rest of it. -/
def upTo (text rest : List Char) : String := String.ofList (text.take (text.length - rest.length))

/-- A text after its opening quote, or nothing if its escapes spell none, and what follows it. -/
def text? (chars : List Char) : Option (Option String × List Char) :=
  match textFrom .plain chars with
  | some (found, rest) => some (some (String.ofList found), rest)
  | none => (afterText chars).map fun rest => (none, rest)

/-- The digits at the start of a text, and what follows them. -/
def spanDigits (text : List Char) : List Char × List Char :=
  (text.takeWhile Text.isDigit, text.dropWhile Text.isDigit)

/-- A fraction with its point, if the text starts with one; nothing for a point without digits. -/
def fraction? : List Char → Option (List Char × List Char)
  | '.' :: rest =>
    match spanDigits rest with
    | ([], _) => none
    | (digits, rest) => some ('.' :: digits, rest)
  | text => some ([], text)

/-- An exponent with its letter and sign, if the text starts with one. -/
def exponent? : List Char → Option (List Char × List Char)
  | [] => some ([], [])
  | c :: rest =>
    if c = 'e' ∨ c = 'E' then
      let (sign, rest) := match rest with
        | '+' :: rest => (['+'], rest)
        | '-' :: rest => (['-'], rest)
        | rest => ([], rest)
      match spanDigits rest with
      | ([], _) => none
      | (digits, rest) => some (c :: sign ++ digits, rest)
    else some ([], c :: rest)

def number? (text : List Char) : Option (Json × List Char) := do
  let (sign, text) := match text with
    | '-' :: rest => (['-'], rest)
    | _ => ([], text)
  let (whole, rest) := spanDigits text
  if whole = [] ∨ (whole.length > 1 ∧ whole.head? = some '0') then none
  let (frac, rest) ← fraction? rest
  let (exp, rest) ← exponent? rest
  let size : Int := Text.digitsValue 0 whole
  let n := if sign = [] then size else -size
  if frac = [] ∧ exp = [] ∧ inRange n ∧ ¬ (sign ≠ [] ∧ n = 0) then some (int n, rest)
  else some (literal (String.ofList (sign ++ whole ++ frac ++ exp)), rest)

mutual

/-- Reads one value in at most so many steps. -/
def valueWithin : Nat → List Char → Option (Json × List Char)
  | 0, _ => none
  | fuel + 1, text =>
    match skipSpace text with
    | '{' :: rest =>
      match skipSpace rest with
      | '}' :: rest => some (obj [], rest)
      | rest => (fieldsWithin fuel rest).map fun p =>
        (p.1.elim (literal (upTo (skipSpace text) p.2)) obj, p.2)
    | '[' :: rest =>
      match skipSpace rest with
      | ']' :: rest => some (arr [], rest)
      | rest => (itemsWithin fuel rest).map fun p => (arr p.1, p.2)
    | '"' :: rest =>
      (text? rest).map fun p => (p.1.elim (literal (upTo (skipSpace text) p.2)) str, p.2)
    | 'n' :: 'u' :: 'l' :: 'l' :: rest => some (null, rest)
    | 't' :: 'r' :: 'u' :: 'e' :: rest => some (bool true, rest)
    | 'f' :: 'a' :: 'l' :: 's' :: 'e' :: rest => some (bool false, rest)
    | text => number? text

/-- Reads the items of an array up to its closing bracket. -/
def itemsWithin : Nat → List Char → Option (List Json × List Char)
  | 0, _ => none
  | fuel + 1, text => do
    let (v, rest) ← valueWithin fuel text
    match skipSpace rest with
    | ',' :: rest =>
      let (items, rest) ← itemsWithin fuel rest
      some (v :: items, rest)
    | ']' :: rest => some ([v], rest)
    | _ => none

/-- Reads the fields of an object up to its closing brace: nothing if some key spells no text. -/
def fieldsWithin : Nat → List Char → Option (Option (List (String × Json)) × List Char)
  | 0, _ => none
  | fuel + 1, text =>
    match skipSpace text with
    | '"' :: rest => do
      let (key, rest) ← text? rest
      match skipSpace rest with
      | ':' :: rest =>
        let (v, rest) ← valueWithin fuel rest
        let field := key.map fun k => (k, v)
        match skipSpace rest with
        | ',' :: rest =>
          let (fields, rest) ← fieldsWithin fuel rest
          some (field.bind fun e => fields.map (e :: ·), rest)
        | '}' :: rest => some (field.map ([·]), rest)
        | _ => none
      | _ => none
    | _ => none

end

/-- The value that a text writes, if it writes exactly one. -/
def parse? (text : String) : Option Json :=
  let chars := text.toList
  match valueWithin (2 * chars.length + 2) chars with
  | some (v, rest) => if skipSpace rest = [] then some v else none
  | none => none

end BrokerFleet.Json
