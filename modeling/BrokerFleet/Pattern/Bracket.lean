import BrokerFleet.Pattern.Escape

/-! # Classes in brackets

Characters, ranges, short classes, named classes and classes within classes stand side by side for
all their members. Between them two signs in a row take the difference, the intersection or the
symmetric difference of all that stands to the left and of what stands up to the next such sign. -/

namespace BrokerFleet.Pattern

/-- A set as it is written, with how deep brackets and operations nest in it. -/
structure Nested where
  set : CharSet := .empty
  depth : Nat := 0

structure Items where
  set : CharSet := .empty
  count : Nat := 0
  depth : Nat := 0

def Items.add (items : Items) (s : CharSet) (depth : Nat) : Items :=
  ⟨items.set.union s, items.count + 1, max items.depth depth⟩

/-- The items as one set; two or more of them nest one step deeper. -/
def Items.close (items : Items) : Nested :=
  ⟨items.set, if items.count < 2 then items.depth else items.depth + 1⟩

inductive SetOperation where
  | intersection
  | difference
  | symmetricDifference
  deriving DecidableEq, Repr

/-- The operation that a sign written twice stands for. -/
def SetOperation.ofSign? (c : Char) : Option SetOperation :=
  if c = '&' then some intersection
  else if c = '-' then some difference
  else if c = '~' then some symmetricDifference
  else none

def SetOperation.apply : SetOperation → CharSet → CharSet → CharSet
  | intersection => CharSet.inter
  | difference => CharSet.diff
  | symmetricDifference => CharSet.symmDiff

/-- What stands to the left of the present items, with the operation that waits for them. -/
abbrev Waiting := Option (Nested × SetOperation)

/-- What stands to the left together with the present items. -/
def Waiting.join (flags : Flags) (w : Waiting) (items : Items) : Nested :=
  let right := items.close
  match w with
  | none => right
  | some (left, op) =>
    ⟨op.apply (flags.folded left.set) (flags.folded right.set), max left.depth right.depth + 1⟩

/-! ## Items -/

/-- The class of ASCII of a name between colons. -/
def asciiClass? (name : String) : Option CharSet :=
  match name with
  | "alnum" => some (.ofRanges [(0x30, 0x39), (0x41, 0x5A), (0x61, 0x7A)])
  | "alpha" => some (.ofRanges [(0x41, 0x5A), (0x61, 0x7A)])
  | "ascii" => some (.ofRange 0x0 0x7F)
  | "blank" => some (.ofRanges [(0x9, 0x9), (0x20, 0x20)])
  | "cntrl" => some (.ofRanges [(0x0, 0x1F), (0x7F, 0x7F)])
  | "digit" => some (.ofRange 0x30 0x39)
  | "graph" => some (.ofRange 0x21 0x7E)
  | "lower" => some (.ofRange 0x61 0x7A)
  | "print" => some (.ofRange 0x20 0x7E)
  | "punct" => some (.ofRanges [(0x21, 0x2F), (0x3A, 0x40), (0x5B, 0x60), (0x7B, 0x7E)])
  | "space" => some (.ofRanges [(0x9, 0xD), (0x20, 0x20)])
  | "upper" => some (.ofRange 0x41 0x5A)
  | "word" => some .asciiWord
  | "xdigit" => some (.ofRanges [(0x30, 0x39), (0x41, 0x46), (0x61, 0x66)])
  | _ => none

/-- A class between colons after an opening bracket, and whether it is negated; anything else is
none of its business. -/
def colonClass? : List Char → Option (Bool × CharSet × List Char)
  | ':' :: text => do
    let (negated, text) := match text with
      | '^' :: rest => (true, rest)
      | _ => (false, text)
    match text.span (· != ':') with
    | (name, ':' :: ']' :: rest) => some (negated, ← asciiClass? (String.ofList name), rest)
    | _ => none
  | _ => none

/-- A character or a set, where an escape may stand for either. -/
def member? (flags : Flags) : List Char → Option (Escaped × List Char)
  | [] => none
  | '\\' :: rest => escape? flags rest
  | c :: rest => some (.char c, rest)

/-- The set of a member. Outside Unicode only ASCII can be a member. -/
def memberSet? (flags : Flags) : Escaped → Option CharSet
  | .char c => if flags.unicode ∨ c.toNat < 0x80 then some (.single c) else none
  | .set s => some s
  | .anchor _ => none

def rangeSet? (flags : Flags) : Escaped → Escaped → Option CharSet
  | .char low, .char high =>
    if low ≤ high ∧ (flags.unicode ∨ high.toNat < 0x80) then some (.ofRange low.toNat high.toNat)
    else none
  | _, _ => none

/-- What a look past blanks and the sign of a comment finds. -/
def lookAhead (flags : Flags) (text : List Char) : Option Char :=
  if ! flags.spaced then text.head?
  else match text.dropWhile Text.isBlank with
    | '#' :: rest => (rest.dropWhile Text.isBlank).head?
    | rest => rest.head?

/-- A member or a range. A hyphen makes a range, unless the class ends or another hyphen follows. -/
def memberOrRange? (flags : Flags) (text : List Char) : Option (CharSet × List Char) := do
  let (first, rest) ← member? flags text
  match flags.skip rest with
  | [] => none
  | '-' :: next =>
    let ahead := lookAhead flags next
    if ahead = some ']' ∨ ahead = some '-' then some (← memberSet? flags first, '-' :: next)
    else
      let (last, rest) ← member? flags (flags.skip next)
      some (← rangeSet? flags first last, rest)
  | rest => some (← memberSet? flags first, rest)

/-- The hyphens at the start of a class, and what follows them. -/
def leadingHyphens (flags : Flags) : Items → List Char → Items × List Char
  | items, [] => (items, [])
  | items, c :: rest =>
    if c = '-' then leadingHyphens flags (items.add (.single '-') 0) rest
    else if flags.spaced ∧ Text.isBlank c then leadingHyphens flags items rest
    else (items, c :: rest)

/-! ## Classes -/

mutual

/-- The class whose opening bracket was read, and what follows it. A hyphen and a closing bracket at
the start are members. -/
def classWithin (flags : Flags) : Nat → List Char → Option (Nested × List Char)
  | 0, _ => none
  | fuel + 1, text => do
    let (negated, text) := match flags.skip text with
      | '^' :: rest => (true, flags.skip rest)
      | rest => (false, rest)
    let (items, text) := leadingHyphens flags {} text
    let text := flags.skip text
    let (items, text) := match items.count, text with
      | 0, ']' :: rest => (items.add (.single ']') 0, rest)
      | _, _ => (items, text)
    let (inner, rest) ← classItems flags fuel none items text
    some (⟨← flags.negated? negated (flags.folded inner.set), inner.depth + 1⟩, rest)

/-- The items of a class up to its closing bracket. -/
def classItems (flags : Flags) : Nat → Waiting → Items → List Char → Option (Nested × List Char)
  | 0, _, _, _ => none
  | fuel + 1, waiting, items, text =>
    match flags.skip text with
    | [] => none
    | ']' :: rest => some (waiting.join flags items, rest)
    | '[' :: rest =>
      match colonClass? rest with
      | some (negated, s, rest) => do
        let s ← flags.negated? negated (flags.folded s)
        classItems flags fuel waiting (items.add s 0) rest
      | none => do
        let (inner, rest) ← classWithin flags fuel rest
        classItems flags fuel waiting (items.add inner.set inner.depth) rest
    | c :: rest => do
      let operation := if rest.head? = some c then SetOperation.ofSign? c else none
      match operation with
      | some op => classItems flags fuel (some (waiting.join flags items, op)) {} (rest.drop 1)
      | none =>
        let (s, rest) ← memberOrRange? flags (c :: rest)
        classItems flags fuel waiting (items.add s 0) rest

end

end BrokerFleet.Pattern
