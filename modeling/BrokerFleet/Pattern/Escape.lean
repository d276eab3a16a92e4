import BrokerFleet.Pattern.Basic
import BrokerFleet.Unicode.Folding

/-! # Escapes

What a backslash and the characters after it stand for: one character, a set of characters, or a
condition on a position. Everything depends on the flags in force. -/

namespace BrokerFleet.Pattern

/-- The flags in force: case variants count; anchors are of lines; a point is any character; classes
are those of Unicode; a carriage return ends lines too; blanks and comments mean nothing. -/
structure Flags where
  fold : Bool := false
  lines : Bool := false
  dotAll : Bool := false
  unicode : Bool := true
  carriage : Bool := false
  spaced : Bool := false
  deriving DecidableEq, Repr

/-- What follows blanks and comments; a comment goes from its sign to the end of the line. -/
def skipFrom : Bool → List Char → List Char
  | _, [] => []
  | true, c :: rest => skipFrom (c != '\n') rest
  | false, c :: rest =>
    if Text.isBlank c then skipFrom false rest
    else if c = '#' then skipFrom true rest
    else c :: rest

/-- What follows blanks and comments, where they mean nothing. -/
def Flags.skip (flags : Flags) (text : List Char) : List Char :=
  if flags.spaced then skipFrom false text else text

/-- What follows a backslash. -/
inductive Escaped where
  | char (c : Char)
  | set (s : CharSet)
  | anchor (a : Anchor)

/-! ## Sets -/

/-- The letters of ASCII that are the other case of members of a set. -/
def otherCases (s : CharSet) : List Nat :=
  let inside := fun n => Flips.inside false s.flips n
  ((List.range 26).filter fun i => inside (0x61 + i)).map (0x41 + ·) ++
    ((List.range 26).filter fun i => inside (0x41 + i)).map (0x61 + ·)

/-- A set with the other case of those of its members that are letters of ASCII. -/
def asciiVariants (s : CharSet) : CharSet :=
  s.union (.ofRanges ((otherCases s).map fun n => (n, n)))

/-- A set with the case variants of its members, where they count. -/
def Flags.folded (flags : Flags) (s : CharSet) : CharSet :=
  if ! flags.fold then s else if flags.unicode then Unicode.withVariants s else asciiVariants s

/-- The set or what lies outside it. Outside Unicode nothing can be negated, because the rest would
be no text. -/
def Flags.negated? (flags : Flags) (negated : Bool) (s : CharSet) : Option CharSet :=
  if ! negated then some s else if flags.unicode then some s.compl else none

def Flags.digits (flags : Flags) : CharSet :=
  if flags.unicode then Unicode.decimals else .ofRange 0x30 0x39

def Flags.blanks (flags : Flags) : CharSet :=
  if flags.unicode then Unicode.blanks else .ofRanges [(0x9, 0xD), (0x20, 0x20)]

def Flags.words (flags : Flags) : CharSet :=
  if flags.unicode then Unicode.word else .asciiWord

def shortClass? (flags : Flags) (c : Char) : Option CharSet :=
  if c = 'd' then some flags.digits
  else if c = 's' then some flags.blanks
  else if c = 'w' then some flags.words
  else if c = 'D' then flags.negated? true flags.digits
  else if c = 'S' then flags.negated? true flags.blanks
  else if c = 'W' then flags.negated? true flags.words
  else none

/-- The set of a name: of a property, or of a value of a kind of property after a sign between them.
An exclamation mark before the sign changes nothing. -/
def propertySet? (name : List Char) : Option CharSet :=
  let valued := fun (kind value : List Char) =>
    Unicode.valued? (Unicode.looseName kind) (Unicode.looseName value)
  match name.span fun c => c != ':' && c != '=' with
  | (_, []) => Unicode.named? (Unicode.looseName name)
  | (kind, sign :: value) =>
    if sign = '=' ∧ kind.getLast? = some '!' then valued kind.dropLast value else valued kind value

/-- What stands up to a closing brace, without blanks that mean nothing, and what follows it. -/
def braced? (flags : Flags) : Nat → List Char → Option (List Char × List Char)
  | 0, _ => none
  | fuel + 1, text =>
    match flags.skip text with
    | [] => none
    | '}' :: rest => some ([], rest)
    | c :: rest => (braced? flags fuel rest).map fun p => (c :: p.1, p.2)

/-- The set of a property by its name, one letter or more in braces. -/
def property? (flags : Flags) (negated : Bool) (text : List Char) : Option (CharSet × List Char) :=
  do
  if ! flags.unicode then none
  let (name, rest) ← match flags.skip text with
    | [] => none
    | '{' :: rest => braced? flags (rest.length + 1) rest
    | c :: rest => if c = '\\' then none else some ([c], flags.skip rest)
  let s ← propertySet? name
  some (← flags.negated? negated (flags.folded s), rest)

/-! ## Characters by number -/

def hexDigit? (c : Char) : Option Nat :=
  if '0' ≤ c ∧ c ≤ '9' then some (c.toNat - 48)
  else if 'a' ≤ c ∧ c ≤ 'f' then some (c.toNat - 87)
  else if 'A' ≤ c ∧ c ≤ 'F' then some (c.toNat - 55)
  else none

/-- The character whose number hexadecimal digits write. -/
def ofHex? (digits : List Char) : Option Char := do
  if digits = [] then none
  let n ← digits.foldl (fun n c => do some ((← n) * 16 + (← hexDigit? c))) (some 0)
  if n.isValidChar then some (Char.ofNat n) else none

/-- So many characters, and what follows them. -/
def takeFixed? (flags : Flags) : Nat → List Char → Option (List Char × List Char)
  | 0, text => some ([], text)
  | n + 1, text =>
    match text with
    | [] => none
    | c :: rest => (takeFixed? flags n (flags.skip rest)).map fun p => (c :: p.1, p.2)

/-- A character given by its number, of fixed width or in braces. Outside Unicode, two digits are a
byte, and only a byte of ASCII is a text. -/
def numbered? (flags : Flags) (width : Nat) (text : List Char) : Option (Char × List Char) :=
  match flags.skip text with
  | '{' :: rest => do
    let (digits, rest) ← braced? flags (rest.length + 1) rest
    some (← ofHex? digits, flags.skip rest)
  | text => do
    let (digits, rest) ← takeFixed? flags width text
    let c ← ofHex? digits
    if width = 2 ∧ ! flags.unicode ∧ c.toNat ≥ 0x80 then none else some (c, rest)

/-! ## Anchors -/

def WordEdge.ofName? (name : String) : Option WordEdge :=
  match name with
  | "start" => some .start
  | "end" => some .finish
  | "start-half" => some .afterGap
  | "end-half" => some .beforeGap
  | _ => none

/-- Whether a character may stand in the name of a word edge. -/
def isEdgeChar (c : Char) : Bool := c.isAlpha || c == '-'

/-- The word edge that may be named in braces. Braces that begin with anything else than a name are
none of its business. -/
def wordEdge? (flags : Flags) (text : List Char) : Option (WordEdge × List Char) :=
  match text with
  | '{' :: rest =>
    match flags.skip rest with
    | [] => none
    | c :: _ =>
      if ! isEdgeChar c then some (.edge, text)
      else do
        let (name, after) ← braced? flags (rest.length + 1) rest
        some (← WordEdge.ofName? (String.ofList name), after)
  | _ => some (.edge, text)

/-! ## Escapes -/

/-- The character of a letter that stands for one. -/
def letterEscape? (c : Char) : Option Char :=
  if c = 'n' then some '\n'
  else if c = 't' then some '\t'
  else if c = 'r' then some '\r'
  else if c = 'f' then some '\x0c'
  else if c = 'v' then some '\x0b'
  else if c = 'a' then some '\x07'
  else none

/-- What a backslash stands for, and what follows it. -/
def escape? (flags : Flags) : List Char → Option (Escaped × List Char)
  | [] => none
  | c :: rest =>
    let word := fun (e : WordEdge) => Escaped.anchor (.word (! flags.unicode) e)
    if c = 'x' then (numbered? flags 2 rest).map fun p => (.char p.1, p.2)
    else if c = 'u' then (numbered? flags 4 rest).map fun p => (.char p.1, p.2)
    else if c = 'U' then (numbered? flags 8 rest).map fun p => (.char p.1, p.2)
    else if c = 'p' ∨ c = 'P' then (property? flags (c == 'P') rest).map fun p => (.set p.1, p.2)
    else if c ∈ ['d', 's', 'w', 'D', 'S', 'W'] then (shortClass? flags c).map fun s =>
      (.set s, rest)
    else if c = 'A' then some (.anchor .textStart, rest)
    else if c = 'z' then some (.anchor .textEnd, rest)
    else if c = 'b' then (wordEdge? flags rest).map fun p => (word p.1, p.2)
    else if c = 'B' then some (word .noEdge, rest)
    else if c = '<' then some (word .start, rest)
    else if c = '>' then some (word .finish, rest)
    else match letterEscape? c with
      | some d => some (.char d, rest)
      | none => if c.toNat < 0x80 ∧ ! c.isAlphanum then some (.char c, rest) else none

end BrokerFleet.Pattern
