import BrokerFleet.Unicode.Property

/-! # Patterns of text

A pattern is matched by following sets of positions: `Trail.ends` takes the positions where a match
may start to those where it may end, so no alternative is ever tried twice. A set of positions is a
number whose bits are the positions. -/

namespace BrokerFleet

/-- A place by the words around it. -/
inductive WordEdge where
  | edge
  | noEdge
  | start
  | finish
  | afterGap
  | beforeGap
  deriving DecidableEq, Repr

/-- A condition on a position between characters. With `carriage`, a carriage return ends a line
too, and with a line feed after it the two are one end; with `ascii`, only ASCII counts as words. -/
inductive Anchor where
  | textStart
  | textEnd
  | lineStart (carriage : Bool)
  | lineEnd (carriage : Bool)
  | word (ascii : Bool) (place : WordEdge)
  deriving DecidableEq, Repr

inductive Pattern where
  | empty
  | one (set : CharSet)
  | seq (a b : Pattern)
  | alt (a b : Pattern)
  | repeated (least : Nat) (most : Option Nat) (a : Pattern)
  | group (a : Pattern)
  | anchor (a : Anchor)

/-- The letters, digits and the underscore of ASCII. -/
def CharSet.asciiWord : CharSet :=
  .ofRanges [(0x30, 0x39), (0x41, 0x5A), (0x5F, 0x5F), (0x61, 0x7A)]

/-- Whether a place is of a kind, by whether a word lies before it and after it. -/
def WordEdge.holds (before after : Bool) : WordEdge → Bool
  | edge => before != after
  | noEdge => before == after
  | start => !before && after
  | finish => before && !after
  | afterGap => !before
  | beforeGap => !after

/-- Whether a condition holds between two characters; there is none at the ends of a text. -/
def Anchor.holds (before after : Option Char) : Anchor → Bool
  | textStart => before.isNone
  | textEnd => after.isNone
  | lineStart carriage =>
    before.isNone || before == some '\n' ||
      (carriage && before == some '\r' && after != some '\n')
  | lineEnd false => after.isNone || after == some '\n'
  | lineEnd true =>
    after.isNone || after == some '\r' || (after == some '\n' && before != some '\r')
  | word ascii e =>
    let inWord := fun (c : Char) => (if ascii then CharSet.asciiWord else Unicode.word).contains c
    e.holds (before.any inWord) (after.any inWord)

/-! ## Matching -/

abbrev Places := Nat

/-- The number whose lowest bits are given, the lowest first. -/
def Places.ofBits (bits : List Bool) : Places := bits.foldr (fun b n => 2 * n + b.toNat) 0

/-- A pattern laid along a text: where a character of each set stands, and where each condition
holds. -/
inductive Trail where
  | stay
  | step (places : Places)
  | gate (places : Places)
  | seq (a b : Trail)
  | alt (a b : Trail)
  | repeated (least : Nat) (most : Option Nat) (a : Trail)

namespace Trail

/-- The positions reached by a step taken exactly so many times. -/
def times (step : Places → Places) : Nat → Places → Places
  | 0, s => s
  | n + 1, s =>
    let t := step s
    if t = s then s else times step n t

/-- The positions reached by a step taken any number of times up to a bound. -/
def closure (step : Places → Places) : Nat → Places → Places
  | 0, s => s
  | n + 1, s =>
    let t := s ||| step s
    if t = s then s else closure step n t

/-- Where matches end that start in a set of positions, in a text of the given length. -/
def ends (length : Nat) : Trail → Places → Places
  | stay, s => s
  | step places, s => (s &&& places) <<< 1
  | gate places, s => s &&& places
  | seq a b, s => ends length b (ends length a s)
  | alt a b, s => ends length a s ||| ends length b s
  | repeated least most a, s =>
    closure (ends length a) (most.elim (length + 1) (· - least)) (times (ends length a) least s)

end Trail

namespace Pattern

/-- The pattern laid along a text. -/
def along (text : List Char) : Pattern → Trail
  | empty => .stay
  | one set => .step (.ofBits (text.map set.contains))
  | seq a b => .seq (along text a) (along text b)
  | alt a b => .alt (along text a) (along text b)
  | repeated least most a => .repeated least most (along text a)
  | group a => along text a
  | anchor a =>
    .gate (.ofBits ((none :: text.map some).zipWith (fun x y => a.holds x y)
      (text.map some ++ [none])))

/-- Whether a pattern matches somewhere in a text. -/
def isMatch (p : Pattern) (text : String) : Bool :=
  let chars := text.toList
  (p.along chars).ends chars.length (Nat.pow 2 (chars.length + 1) - 1) != 0

end Pattern

end BrokerFleet
