/-! # Decimal numerals

Reading decimal numerals within bounds. A plus sign and leading zeros are allowed; a minus sign only
where negative numbers are. -/

namespace BrokerFleet.Text

/-- Whether a character is one of the ten ASCII digits. -/
def isDigit (c : Char) : Bool := '0' ≤ c && c ≤ '9'

def digitValue (c : Char) : Nat := c.toNat - '0'.toNat

/-- The number written by a list of digits after a number already read. -/
def digitsValue (start : Nat) : List Char → Nat
  | [] => start
  | c :: rest => digitsValue (10 * start + digitValue c) rest

/-- The number written by one or more digits and nothing else. -/
def digits? (text : List Char) : Option Nat :=
  if text ≠ [] ∧ text.all isDigit then some (digitsValue 0 text) else none

/-- A natural number below a bound, with or without a plus sign. -/
def natBelow? (bound : Nat) (text : List Char) : Option Nat :=
  let digits := match text with
    | '+' :: rest => rest
    | _ => text
  (digits? digits).filter (· < bound)

/-- An integer of 32 bits, with or without a sign. -/
def int32? (text : List Char) : Option Int32 :=
  let value : Option Int := match text with
    | '-' :: rest => (digits? rest).map fun n => -(n : Int)
    | '+' :: rest => (digits? rest).map fun n => (n : Int)
    | _ => (digits? text).map fun n => (n : Int)
  (value.filter fun n => -2147483648 ≤ n ∧ n < 2147483648).map Int32.ofInt

/-- The last digits of a number in a given base, most significant first, at least as many as a
width. -/
def padded (base width n : Nat) : List Char :=
  let digits := Nat.toDigits base n
  List.replicate (width - digits.length) '0' ++ digits

end BrokerFleet.Text
