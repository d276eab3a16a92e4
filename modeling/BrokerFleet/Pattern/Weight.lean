import BrokerFleet.Pattern.Basic

/-! # The weight of patterns

A pattern weighs what an automaton for it would take that reads bytes of UTF-8, with every
repetition written out. Patterns above `Pattern.maxWeight` are refused, so that a short text cannot
ask for an enormous pattern. An automaton reads forward or backward, and the heavier of the two
counts. -/

namespace BrokerFleet.Pattern

/-! ## Characters as bytes -/

abbrev ByteRange := Nat × Nat

def maxOfWidth (width : Nat) : Nat :=
  if width ≤ 1 then 0x7F else if width = 2 then 0x7FF else if width = 3 then 0xFFFF else 0x10FFFF

def widthOf (n : Nat) : Nat :=
  if n ≤ 0x7F then 1 else if n ≤ 0x7FF then 2 else if n ≤ 0xFFFF then 3 else 4

def bytesOf (n : Nat) : List Nat :=
  let trail := fun (k : Nat) => 0x80 + n / Nat.pow 64 k % 64
  match widthOf n with
  | 1 => [n]
  | 2 => [0xC0 + n / 64, trail 0]
  | 3 => [0xE0 + n / 4096, trail 1, trail 0]
  | _ => [0xF0 + n / 262144, trail 2, trail 1, trail 0]

/-- Where a range has to be cut, so that before the cut and after it the numbers are closer to being
all combinations of byte ranges: at the surrogates, where the width changes, and where the leading
bytes differ but the trailing ones are not all of theirs. -/
def cut? (low high : Nat) : Option ((Nat × Nat) × (Nat × Nat)) :=
  if low < 0xE000 ∧ high > 0xD7FF then some ((low, 0xD7FF), (0xE000, high))
  else match [1, 2, 3].find? fun w => low ≤ maxOfWidth w ∧ maxOfWidth w < high with
    | some w => some ((low, maxOfWidth w), (maxOfWidth w + 1, high))
    | none =>
      if high ≤ 0x7F then none
      else [1, 2, 3].findSome? fun k =>
        let size := Nat.pow 64 k
        if low / size = high / size then none
        else if low % size ≠ 0 then
          some ((low, low / size * size + (size - 1)), (low / size * size + size, high))
        else if high % size ≠ size - 1 then
          some ((low, high / size * size - 1), (high / size * size, high))
        else none

/-- A range as combinations of byte ranges. -/
def byteRanges : Nat → Nat → Nat → List (List ByteRange)
  | 0, _, _ => []
  | fuel + 1, low, high =>
    if low > high then []
    else match cut? low high with
      | some (a, b) => byteRanges fuel a.1 a.2 ++ byteRanges fuel b.1 b.2
      | none => [(bytesOf low).zip (bytesOf high)]

/-- A set as combinations of byte ranges, in increasing order. -/
def bytePaths (s : CharSet) : List (List ByteRange) :=
  s.ranges.flatMap fun r => byteRanges 32 r.1 r.2

/-! ## Automata for sets -/

/-- What one state takes. -/
def stateWeight : Nat := 32

/-- What a step from a state that chooses between bytes takes. -/
def stepWeight : Nat := 8

/-- What a step from a state that chooses without reading takes. -/
def choiceWeight : Nat := 4

/-- A state: the steps that lead on from it by a byte. States are numbered from one; nothing leads
on from the last, which is zero. -/
abbrev ByteState := List (ByteRange × Nat)

/-- The number of a state, which is put before the others if it is new. -/
def numberOf (states : List ByteState) (s : ByteState) : Nat × List ByteState :=
  match states.findIdx? (· == s) with
  | some i => (states.length - i, states)
  | none => (states.length + 1, s :: states)

/-- Paths with the same first step put together, where they are neighbours. -/
def byFirst : List (List ByteRange) → List (ByteRange × List (List ByteRange))
  | [] => []
  | [] :: rest => byFirst rest
  | (r :: path) :: rest =>
    match byFirst rest with
    | (r', paths) :: more =>
      if r = r' then (r, path :: paths) :: more else (r, [path]) :: (r', paths) :: more
    | [] => [(r, [path])]

/-- The state from which paths lead on, where states from which the same leads on are one. -/
def stateOf : Nat → List (List ByteRange) → List ByteState → Nat × List ByteState
  | 0, _, states => (0, states)
  | depth + 1, paths, states =>
    if paths.all (·.isEmpty) then (0, states)
    else
      let (steps, states) := (byFirst paths).foldl
        (fun (acc : ByteState × List ByteState) group =>
          let (next, states) := stateOf depth group.2 acc.2
          (acc.1 ++ [(group.1, next)], states))
        ([], states)
      numberOf states steps

/-- The weight of a set read forward: states from which the same leads on are shared. -/
def forwardSetWeight (paths : List (List ByteRange)) : Nat :=
  let states := (stateOf 5 paths []).2
  states.foldl (fun n s => n + stateWeight + stepWeight * s.length) stateWeight

/-- The number of steps that two paths begin with in common. -/
def sharedSteps : List ByteRange → List ByteRange → Nat
  | r :: path, r' :: path' => if r = r' then sharedSteps path path' + 1 else 0
  | _, _ => 0

/-- The number of steps of paths in which what neighbours begin with counts once. -/
def countSteps : List ByteRange → List (List ByteRange) → Nat
  | _, [] => 0
  | before, path :: rest => path.length - sharedSteps before path + countSteps path rest

/-- The weight of a set read backward: only what paths begin with is shared. -/
def backwardSetWeight (paths : List (List ByteRange)) : Nat :=
  2 * stateWeight + choiceWeight * paths.length + stateWeight * countSteps [] paths

/-- The weight of a set in one direction. One character is a sequence of bytes, and characters of
ASCII are read alike in both directions. -/
def setWeight (backward : Bool) (s : CharSet) : Nat :=
  match s.ranges with
  | [] => stateWeight
  | [(low, high)] => if low = high then widthOf low * stateWeight else weigh (bytePaths s)
  | _ => weigh (bytePaths s)
where
  weigh (paths : List (List ByteRange)) : Nat :=
    if backward ∧ paths.any (·.length > 1) then backwardSetWeight paths else forwardSetWeight paths

/-! ## Patterns -/

/-- Whether every match of a pattern has a character. -/
def isNonEmpty : Pattern → Bool
  | empty | anchor _ => false
  | one set => ! set.isEmpty
  | seq a b => isNonEmpty a || isNonEmpty b
  | alt a b => isNonEmpty a && isNonEmpty b
  | repeated least _ a => least > 0 && isNonEmpty a
  | group a => isNonEmpty a

/-- Whether no match of a pattern has a character. -/
def isOnlyEmpty : Pattern → Bool
  | empty | anchor _ => true
  | one _ => false
  | seq a b | alt a b => isOnlyEmpty a && isOnlyEmpty b
  | repeated _ most a => most == some 0 || isOnlyEmpty a
  | group a => isOnlyEmpty a

/-- What a choice between going on and leaving takes. -/
def branchWeight : Nat := stateWeight + 2 * choiceWeight

/-- The weight of a repetition of a pattern whose weight is given. What has no character is repeated
once at most. -/
def repeatedWeight (least : Nat) (most : Option Nat) (a : Pattern) (weight : Nat) : Nat :=
  let (least, most) :=
    if isOnlyEmpty a then (min least 1, some (min (most.getD 1) 1)) else (least, most)
  match least, most with
  | 0, some 0 => stateWeight
  | 0, some 1 => weight + branchWeight + stateWeight
  | 0, none =>
    if isNonEmpty a then weight + branchWeight else weight + 2 * branchWeight + stateWeight
  | n, none => n * weight + branchWeight
  | n, some m =>
    if n = m then n * weight
    else max (n * weight) (if n = 0 then stateWeight else 0) + stateWeight +
      (m - n) * (weight + branchWeight)

/-- The weight of a pattern in one direction. The alternatives of one choice share its two ends, so
an alternative that is itself a choice adds none. Only what reads forward records places. -/
def directedWeight (backward : Bool) : Bool → Pattern → Nat
  | _, empty | _, anchor _ => stateWeight
  | _, one set => setWeight backward set
  | _, seq a b => directedWeight backward false a + directedWeight backward false b
  | nested, alt a b =>
    directedWeight backward false a + directedWeight backward true b + choiceWeight +
      if nested then 0 else 2 * stateWeight + choiceWeight
  | _, repeated least most a => repeatedWeight least most a (directedWeight backward false a)
  | _, group a => directedWeight backward false a + if backward then 0 else 2 * stateWeight

/-- What an automaton takes besides a pattern, to begin anywhere and to tell that it has matched. -/
def frameWeight : Nat := branchWeight + 5 * stateWeight + stepWeight

def weight (p : Pattern) : Nat :=
  max (directedWeight false false p) (directedWeight true false p) + frameWeight

/-- The greatest weight that is accepted, ten mebibytes. -/
def maxWeight : Nat := 10485760

end BrokerFleet.Pattern
