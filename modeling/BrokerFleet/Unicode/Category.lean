import BrokerFleet.Text.Cut
import BrokerFleet.Unicode.CategoryTable
import BrokerFleet.Unicode.CharSet

/-! # Categories of characters

The general category of every character by version 17 of the standard. What is matched against
patterns goes by version 16, for which the newest characters are still unassigned. -/

namespace BrokerFleet.Unicode

inductive Category where
  | capital
  | small
  | titleCase
  | modifierLetter
  | otherLetter
  | nonspacingMark
  | spacingMark
  | enclosingMark
  | decimalDigit
  | letterNumber
  | otherNumber
  | connector
  | dash
  | opening
  | closing
  | initialQuote
  | finalQuote
  | otherPunctuation
  | mathSign
  | currency
  | modifierSign
  | otherSign
  | space
  | lineSeparator
  | paragraphSeparator
  | control
  | format
  | surrogate
  | privateUse
  | unassigned
  deriving DecidableEq, Repr

namespace Category

/-- The categories with their codes of two letters. -/
def codes : List (String × Category) :=
  [("Lu", capital), ("Ll", small), ("Lt", titleCase), ("Lm", modifierLetter), ("Lo", otherLetter),
    ("Mn", nonspacingMark), ("Mc", spacingMark), ("Me", enclosingMark), ("Nd", decimalDigit),
    ("Nl", letterNumber), ("No", otherNumber), ("Pc", connector), ("Pd", dash), ("Ps", opening),
    ("Pe", closing), ("Pi", initialQuote), ("Pf", finalQuote), ("Po", otherPunctuation),
    ("Sm", mathSign), ("Sc", currency), ("Sk", modifierSign), ("So", otherSign), ("Zs", space),
    ("Zl", lineSeparator), ("Zp", paragraphSeparator), ("Cc", control), ("Cf", format),
    ("Cs", surrogate), ("Co", privateUse), ("Cn", unassigned)]

def ofCode (code : String) : Category := (codes.lookup code).getD unassigned

def isLetter : Category → Bool
  | capital | small | titleCase | modifierLetter | otherLetter => true
  | _ => false

def isMark : Category → Bool
  | nonspacingMark | spacingMark | enclosingMark => true
  | _ => false

def isNumber : Category → Bool
  | decimalDigit | letterNumber | otherNumber => true
  | _ => false

def isSeparator : Category → Bool
  | space | lineSeparator | paragraphSeparator => true
  | _ => false

/-- Whether this is a category of what is no character with a shape. -/
def isOther : Category → Bool
  | control | format | surrogate | privateUse | unassigned => true
  | _ => false

end Category

/-! ## Reading tables -/

def hexDigit (c : Char) : Nat := if c.isDigit then c.toNat - 48 else c.toNat - 55

/-- The number that hexadecimal digits write. -/
def hexNumber (digits : List Char) : Nat := digits.foldl (fun n c => n * 16 + hexDigit c) 0

/-- The entries of lines, which stand between blanks. -/
def entries (lines : List String) : List (List Char) :=
  lines.flatMap fun line => Text.splitOn ' ' line.toList

/-- The numbers of lines with the codes after them, all of one width. -/
def labelled (width : Nat) (lines : List String) : List (Nat × String) :=
  (entries lines).map fun e =>
    (hexNumber (e.take (e.length - width)), String.ofList (e.drop (e.length - width)))

/-- A range in words of a table: one number, or two with a hyphen between them. -/
def rangeOf (entry : List Char) : Nat × Nat :=
  match Text.splitFirst? '-' entry with
  | some (low, high) => (hexNumber low, hexNumber high)
  | none => (hexNumber entry, hexNumber entry)

/-- The set that lines of ranges list. -/
def setOf (lines : List String) : CharSet := .ofRanges ((entries lines).map rangeOf)

/-- The ranges in which a label satisfies a test, where every label holds up to the next one. -/
def labelledRanges {α : Type} (test : α → Bool) : List (Nat × α) → List (Nat × Nat)
  | [] => []
  | [(n, a)] => if test a then [(n, 0x10FFFF)] else []
  | (n, a) :: (m, b) :: rest =>
    let later := labelledRanges test ((m, b) :: rest)
    if test a then
      match later with
      | (low, high) :: more => if low = m then (n, high) :: more else (n, m - 1) :: later
      | [] => [(n, m - 1)]
    else later

/-- The label that holds at a number. -/
def labelAt {α : Type} (n : Nat) : α → List (Nat × α) → α
  | a, [] => a
  | a, (m, b) :: rest => if n < m then a else labelAt n b rest

/-! ## Categories -/

/-- The numbers at which a category begins to hold. -/
def categories : List (Nat × Category) :=
  (labelled 2 categoryLines).map fun e => (e.1, .ofCode e.2)

def category (c : Char) : Category := labelAt c.toNat .unassigned categories

/-- The characters that version 16 does not have. -/
def newest : CharSet := setOf newestLines

/-- The characters of version 16 whose category satisfies a test. -/
def ofCategories (test : Category → Bool) : CharSet :=
  let s := CharSet.ofRanges (labelledRanges test categories)
  if test .unassigned then s.union newest else s.diff newest

end BrokerFleet.Unicode
