import BrokerFleet.Json.Reader

/-! # Sound documents

A document may hold things that are well written and stand for no value: texts with half of a
surrogate pair, numbers beyond all floating-point numbers, and objects or lists nested too deep. A
document without any is sound. -/

namespace BrokerFleet.Json

/-- The least number that rounds to no floating-point number of 64 bits. -/
def firstInfinite : Nat := Nat.pow 2 1024 - Nat.pow 2 970

/-- Whether a decimal number is below the first infinite one. The number of places before the point
decides unless it is that of the bound. -/
def isFinite (digits : List Char) (exponent : Int) : Bool :=
  let significant := digits.dropWhile (· == '0')
  let places := significant.length + exponent
  let value := Text.digitsValue 0 significant
  if significant = [] ∨ places < 309 then true
  else if places > 309 then false
  else value * Nat.pow 10 exponent.toNat < firstInfinite * Nat.pow 10 (-exponent).toNat

/-- Whether a literal is a number with a floating-point number next to it. -/
def isNumberLiteral (text : List Char) : Bool :=
  let unsigned := match text with
    | '-' :: rest => rest
    | _ => text
  let (whole, rest) := spanDigits unsigned
  let (frac, rest) := match rest with
    | '.' :: rest => spanDigits rest
    | _ => ([], rest)
  let exponent : Int := match rest with
    | _ :: '-' :: digits => -(Text.digitsValue 0 digits : Int)
    | _ :: '+' :: digits => Text.digitsValue 0 digits
    | _ :: digits => Text.digitsValue 0 digits
    | [] => 0
  whole ≠ [] && isFinite (whole ++ frac) (exponent - frac.length)

mutual

/-- Whether a value is sound and nested at most so deep. -/
def isSound : Json → Nat → Bool
  | literal text, _ => isNumberLiteral text.toList
  | arr items, depth => 0 < depth && itemsSound items (depth - 1)
  | obj fields, depth => 0 < depth && fieldsSound fields (depth - 1)
  | _, _ => true

def itemsSound : List Json → Nat → Bool
  | [], _ => true
  | v :: rest, depth => isSound v depth && itemsSound rest depth

def fieldsSound : List (String × Json) → Nat → Bool
  | [], _ => true
  | (_, v) :: rest, depth => isSound v depth && fieldsSound rest depth

end

def depthLimit : Nat := 127

/-- The value of a sound document. -/
def parseSound? (text : String) : Option Json := (parse? text).filter (·.isSound depthLimit)

end BrokerFleet.Json
