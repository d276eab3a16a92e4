import BrokerFleet.Pattern.Bracket
import BrokerFleet.Pattern.Weight
import BrokerFleet.Text.Number

/-! # Reading patterns

Literals, the point, classes, anchors, groups with and without names, alternatives, repetitions and
flags. There are no look-around and no back references. What nests too deep or weighs too much is
refused. -/

namespace BrokerFleet.Pattern

/-- A pattern as it is written, with how deep its parts nest. -/
structure Part where
  pattern : Pattern
  depth : Nat := 0

/-- What is read of one alternative, the last item first; nothing stands for a change of flags. -/
abbrev Parts := List (Option Part)

/-- The patterns of a sequence as one. -/
def sequence : List Pattern → Pattern
  | [] => .empty
  | [p] => p
  | p :: rest => .seq p (sequence rest)

/-- The patterns of alternatives as one. -/
def choice : List Pattern → Pattern
  | [] => .empty
  | [p] => p
  | p :: rest => .alt p (choice rest)

/-- How deep parts nest that stand together; two or more of them nest one step deeper. -/
def depthOf (depths : List Nat) : Nat :=
  let deepest := depths.foldl max 0
  if depths.length < 2 then deepest else deepest + 1

/-- The items of an alternative as one part. -/
def Parts.close (parts : Parts) : Part :=
  ⟨sequence ((parts.filterMap id).map (·.pattern)).reverse,
    depthOf (parts.map fun p => p.elim 0 (·.depth))⟩

/-- The alternatives as one part. -/
def closeAll (branches : List Part) : Part :=
  ⟨choice (branches.map (·.pattern)), depthOf (branches.map (·.depth))⟩

/-- The items with a repetition put around the last one; flags and nothing cannot be repeated. -/
def Parts.repeatLast (least : Nat) (most : Option Nat) : Parts → Option Parts
  | some p :: rest => some (some ⟨.repeated least most p.pattern, p.depth + 1⟩ :: rest)
  | _ => none

/-! ## Flags -/

/-- The flags with the one of a letter set or cleared. -/
def Flags.set? (flags : Flags) (on : Bool) (c : Char) : Option Flags :=
  if c = 'i' then some { flags with fold := on }
  else if c = 'm' then some { flags with lines := on }
  else if c = 's' then some { flags with dotAll := on }
  else if c = 'u' then some { flags with unicode := on }
  else if c = 'R' then some { flags with carriage := on }
  else if c = 'x' then some { flags with spaced := on }
  else if c = 'U' then some flags
  else none

/-- The flags that letters set, and clear after a hyphen; `used` holds the signs read before, of
which none may come again, and a hyphen is never the last. -/
def Flags.change? (flags : Flags) (on : Bool) (used : List Char) : List Char → Option Flags
  | [] => if used.head? = some '-' then none else some flags
  | c :: rest =>
    if c ∈ used then none
    else if c = '-' then Flags.change? flags false (c :: used) rest
    else do Flags.change? (← flags.set? on c) on (c :: used) rest

/-! ## Repetitions -/

/-- Digits, between which blanks may stand that mean nothing, and what follows them. -/
def countDigits (flags : Flags) : Nat → List Char → List Char × List Char
  | 0, text => ([], text)
  | fuel + 1, text =>
    match text with
    | c :: rest =>
      if Text.isDigit c then
        let (digits, rest) := countDigits flags fuel (flags.skip rest)
        (c :: digits, rest)
      else ([], text)
    | [] => ([], [])

/-- A count of 32 bits between blanks, and what follows it. -/
def count? (flags : Flags) (text : List Char) : Option (Nat × List Char) := do
  let (digits, rest) := countDigits flags (text.length + 1) (text.dropWhile Text.isBlank)
  let n ← (Text.digits? digits).filter (· < 4294967296)
  some (n, rest.dropWhile Text.isBlank)

/-- The bounds of a counted repetition whose opening brace was read, and what follows it. -/
def bounds? (flags : Flags) (text : List Char) : Option (Nat × Option Nat × List Char) := do
  let (least, rest) ← count? flags (flags.skip text)
  match rest with
  | '}' :: rest => some (least, some least, rest)
  | ',' :: rest =>
    match flags.skip rest with
    | '}' :: rest => some (least, none, rest)
    | rest =>
      let (most, rest) ← count? flags rest
      match rest with
      | '}' :: rest => if most < least then none else some (least, some most, rest)
      | _ => none
  | _ => none

/-- The text without a sign that a repetition prefers few steps. -/
def dropLazy : List Char → List Char
  | '?' :: rest => rest
  | text => text

/-! ## Groups -/

def isNameChar (first : Bool) (c : Char) : Bool :=
  c == '_' || Unicode.isLetter c ||
    (! first && (c == '.' || c == '[' || c == ']' || (Unicode.category c).isNumber))

/-- The name of a group before its closing bracket, and what follows that. -/
def groupName? (text : List Char) : Option (List Char × List Char) :=
  match text.span (· != '>') with
  | (c :: name, _ :: rest) =>
    if isNameChar true c ∧ name.all (isNameChar false) then some (c :: name, rest) else none
  | _ => none

/-- How a group begins: it is given a name, or flags for its inside; or it is no group at all but a
change of flags for all that follows. -/
inductive Opening where
  | group (name : Option (List Char)) (recorded : Bool) (flags : Flags)
  | change (flags : Flags)

/-- The start of a group whose opening parenthesis was read, and what follows it. -/
def opening? (flags : Flags) (text : List Char) : Option (Opening × List Char) :=
  let named := fun (text : List Char) =>
    (groupName? text).map fun p => (Opening.group (some p.1) true flags, p.2)
  match flags.skip text with
  | '?' :: 'P' :: '<' :: rest => named rest
  | '?' :: '<' :: rest => named rest
  | '?' :: rest =>
    match rest.span fun c => c != ':' && c != ')' with
    | (letters, ':' :: rest) =>
      (flags.change? true [] letters).map fun inner => (.group none false inner, rest)
    | (c :: letters, ')' :: rest) =>
      (flags.change? true [] (c :: letters)).map fun after => (.change after, rest)
    | _ => none
  | rest => some (.group none true flags, rest)

/-! ## Patterns -/

def escapedPattern (flags : Flags) : Escaped → Pattern
  | .char c => .one (flags.folded (.single c))
  | .set s => .one s
  | .anchor a => .anchor a

/-- The pattern of a point. Outside Unicode a point could be half a character, so there is none. -/
def pointPattern? (flags : Flags) : Option Pattern :=
  if ! flags.unicode then none
  else if flags.dotAll then some (.one .all)
  else if flags.carriage then some (.one (CharSet.ofRanges [(0xA, 0xA), (0xD, 0xD)]).compl)
  else some (.one (CharSet.single '\n').compl)

/-- The pattern of a character that is neither part of a group nor a repetition, and what
follows. -/
def primitive? (flags : Flags) (fuel : Nat) (c : Char) (rest : List Char) :
    Option (Part × List Char) :=
  if c = '.' then (pointPattern? flags).map fun p => (⟨p, 0⟩, rest)
  else if c = '^' then
    some (⟨.anchor (if flags.lines then .lineStart flags.carriage else .textStart), 0⟩, rest)
  else if c = '$' then
    some (⟨.anchor (if flags.lines then .lineEnd flags.carriage else .textEnd), 0⟩, rest)
  else if c = '[' then
    (classWithin flags fuel rest).map fun p => (⟨.one p.1.set, p.1.depth⟩, p.2)
  else if c = '\\' then
    (escape? flags rest).map fun p => (⟨escapedPattern flags p.1, 0⟩, p.2)
  else some (⟨escapedPattern flags (.char c), 0⟩, rest)

/-- What was read up to the end of a text or an unmatched closing parenthesis: the alternatives, the
names of groups in use, and what follows. -/
structure Reading where
  part : Part
  names : List (List Char)
  rest : List Char

/-- Reads alternatives. The ones read before and the items of the present one stand with the last
first. -/
def alternatives : Nat → Flags → List (List Char) → List Part → Parts → List Char → Option Reading
  | 0, _, _, _, _, _ => none
  | fuel + 1, flags, names, branches, items, text =>
    let again := alternatives fuel flags names branches
    let finished := fun (rest : List Char) =>
      some (Reading.mk (closeAll (items.close :: branches).reverse) names rest)
    let repeating := fun (least : Nat) (most : Option Nat) (rest : List Char) => do
      again (← items.repeatLast least most) (dropLazy rest)
    match flags.skip text with
    | [] => finished []
    | c :: rest =>
      if c = ')' then finished (c :: rest)
      else if c = '|' then alternatives fuel flags names (items.close :: branches) [] rest
      else if c = '*' then repeating 0 none rest
      else if c = '+' then repeating 1 none rest
      else if c = '?' then repeating 0 (some 1) rest
      else if c = '{' then do
        let (least, most, rest) ← bounds? flags rest
        repeating least most (flags.skip rest)
      else if c = '(' then
        match opening? flags rest with
        | none => none
        | some (.change after, rest) => alternatives fuel after names branches (none :: items) rest
        | some (.group name recorded inner, rest) => do
          if name.any names.contains then none
          let r ← alternatives fuel inner (name.toList ++ names) [] [] rest
          match r.rest with
          | ')' :: rest =>
            let p := if recorded then .group r.part.pattern else r.part.pattern
            alternatives fuel flags r.names branches (some ⟨p, r.part.depth + 1⟩ :: items) rest
          | _ => none
      else do
        let (p, rest) ← primitive? flags fuel c rest
        again (some p :: items) rest

def maxDepth : Nat := 250

/-- The pattern that a text writes, if it writes one that is accepted. -/
def parse? (text : String) : Option Pattern := do
  let chars := text.toList
  let r ← alternatives (2 * chars.length + 2) {} [] [] [] chars
  if r.rest = [] ∧ r.part.depth ≤ maxDepth ∧ r.part.pattern.weight ≤ maxWeight then
    some r.part.pattern
  else none

end BrokerFleet.Pattern
