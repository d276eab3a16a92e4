import BrokerFleet.Text.Cut
import BrokerFleet.Text.Number

/-! # Messages with a place

A message may end in the line and the column that it speaks of. Lines are counted from one, so line
zero is no place. -/

namespace BrokerFleet.Text

/-- A number of 64 bits at the end of a text, and what precedes it. -/
def endNumber? (text : List Char) : Option (List Char × Nat) :=
  let (digits, before) := text.reverse.span isDigit
  ((digits? digits.reverse).filter (· < 18446744073709551616)).map fun n => (before.reverse, n)

/-- The message, the line and the column of a text that ends in a place. -/
def place? (text : List Char) : Option (List Char × Nat × Nat) := do
  let (text, column) ← endNumber? text
  let (text, line) ← endNumber? (← dropTail? " column ".toList text)
  some (← dropTail? " at line ".toList text, line, column)

/-- A text whose place, if it ends in one, is written with plain numbers, or not at all if it is
none. -/
def placed (text : String) : String :=
  match place? text.toList with
  | some (message, line, column) =>
    String.ofList message ++
      if line = 0 then "" else " at line " ++ toString line ++ " column " ++ toString column
  | none => text

end BrokerFleet.Text
