import BrokerFleet.Text.Blank
import BrokerFleet.Unicode.PropertyTable
import BrokerFleet.Unicode.Script

/-! # Properties of characters

The sets of characters that have a property, and how a property, a category or a script is named:
letter case, blanks, hyphens and underscores do not count, nor does `is` at the start. -/

namespace BrokerFleet.Unicode

/-! ## Letters, words and identifiers -/

/-- The characters of alphabets. -/
def alphabetic : CharSet :=
  (ofCategories fun k => k.isLetter || k == .letterNumber).union (setOf otherAlphabeticLines)

/-- The small letters and what is used like them. -/
def lowercase : CharSet := (ofCategories (· == .small)).union (setOf otherLowercaseLines)

/-- The capitals and what is used like them. -/
def uppercase : CharSet := (ofCategories (· == .capital)).union (setOf otherUppercaseLines)

/-- The two characters that join their neighbours or keep them apart. -/
def joiners : CharSet := .ofRange 0x200C 0x200D

/-- The characters of words. -/
def word : CharSet :=
  (alphabetic.union joiners).union
    (ofCategories fun k => k.isMark || k == .decimalDigit || k == .connector)

/-- The decimal digits. -/
def decimals : CharSet := ofCategories (· == .decimalDigit)

/-- Whether a character is one of an alphabet, the newest letters included. -/
def isLetter (c : Char) : Bool :=
  alphabetic.contains c ||
    (newest.contains c && ((category c).isLetter || category c == .letterNumber))

/-- The characters of the property White_Space. -/
def blanks : CharSet :=
  .ofRanges [(0x9, 0xD), (0x20, 0x20), (0x85, 0x85), (0xA0, 0xA0), (0x1680, 0x1680),
    (0x2000, 0x200A), (0x2028, 0x2029), (0x202F, 0x202F), (0x205F, 0x205F), (0x3000, 0x3000)]

def identifierStart : CharSet :=
  ((ofCategories fun k => k.isLetter || k == .letterNumber).union
    (.ofRanges [(0x1885, 0x1886), (0x2118, 0x2118), (0x212E, 0x212E), (0x309B, 0x309C)])).diff
      (.ofRange 0x2E2F 0x2E2F)

def identifierPart : CharSet :=
  (identifierStart.union
    (ofCategories fun k => k == .nonspacingMark || k == .spacingMark || k == .decimalDigit ||
      k == .connector)).union
    (.ofRanges [(0xB7, 0xB7), (0x387, 0x387), (0x1369, 0x1371), (0x19DA, 0x19DA), (0x200C, 0x200D),
      (0x30FB, 0x30FB), (0xFF65, 0xFF65)])

/-- The characters that stand for no character. -/
def noncharacters : CharSet :=
  .ofRanges ((0xFDD0, 0xFDEF) :: (List.range 17).map fun plane =>
    (plane * 0x10000 + 0xFFFE, plane * 0x10000 + 0xFFFF))

/-! ## Names -/

def property? (name : String) : Option CharSet :=
  match name with
  | "alphabetic" | "alpha" => some alphabetic
  | "lowercase" | "lower" => some lowercase
  | "uppercase" | "upper" => some uppercase
  | "cased" => some ((lowercase.union uppercase).union (ofCategories (· == .titleCase)))
  | "whitespace" | "wspace" | "space" => some blanks
  | "patternwhitespace" | "patws" =>
    some (.ofRanges [(0x9, 0xD), (0x20, 0x20), (0x85, 0x85), (0x200E, 0x200F), (0x2028, 0x2029)])
  | "ideographic" | "ideo" => some (setOf ideographsLines)
  | "unifiedideograph" | "uideo" => some (setOf unifiedIdeographsLines)
  | "idstart" | "ids" => some identifierStart
  | "idcontinue" | "idc" => some identifierPart
  | "xidstart" | "xids" => some (identifierStart.diff (setOf identifierLessLines))
  | "xidcontinue" | "xidc" => some (identifierPart.diff (setOf identifierNeverLines))
  | "emoji" => some (setOf emojiLines)
  | "emojipresentation" | "epres" => some (setOf emojiPresentationLines)
  | "emojimodifier" | "emod" => some (.ofRange 0x1F3FB 0x1F3FF)
  | "emojimodifierbase" | "ebase" => some (setOf emojiBasesLines)
  | "emojicomponent" | "ecomp" => some (setOf emojiPartsLines)
  | "extendedpictographic" | "extpict" => some (setOf pictographsLines)
  | "math" => some ((ofCategories (· == .mathSign)).union (setOf otherMathLines))
  | "dash" => some (setOf dashesLines)
  | "quotationmark" | "qmark" => some (setOf quotationMarksLines)
  | "hexdigit" | "hex" =>
    some (.ofRanges [(0x30, 0x39), (0x41, 0x46), (0x61, 0x66), (0xFF10, 0xFF19), (0xFF21, 0xFF26),
      (0xFF41, 0xFF46)])
  | "asciihexdigit" | "ahex" => some (.ofRanges [(0x30, 0x39), (0x41, 0x46), (0x61, 0x66)])
  | "joincontrol" | "joinc" => some joiners
  | "regionalindicator" | "ri" => some (.ofRange 0x1F1E6 0x1F1FF)
  | "variationselector" | "vs" =>
    some (.ofRanges [(0x180B, 0x180D), (0x180F, 0x180F), (0xFE00, 0xFE0F), (0xE0100, 0xE01EF)])
  | "noncharactercodepoint" | "nchar" => some noncharacters
  | _ => none

/-- The categories that a name stands for. -/
def categoryTest? (name : String) : Option (Category → Bool) :=
  match name with
  | "l" | "letter" => some Category.isLetter
  | "lc" | "casedletter" => some fun k => k == .capital || k == .small || k == .titleCase
  | "lu" | "uppercaseletter" => some (· == .capital)
  | "ll" | "lowercaseletter" => some (· == .small)
  | "lt" | "titlecaseletter" => some (· == .titleCase)
  | "lm" | "modifierletter" => some (· == .modifierLetter)
  | "lo" | "otherletter" => some (· == .otherLetter)
  | "m" | "mark" | "combiningmark" => some Category.isMark
  | "mn" | "nonspacingmark" => some (· == .nonspacingMark)
  | "mc" | "spacingmark" => some (· == .spacingMark)
  | "me" | "enclosingmark" => some (· == .enclosingMark)
  | "n" | "number" => some Category.isNumber
  | "nd" | "decimalnumber" | "digit" => some (· == .decimalDigit)
  | "nl" | "letternumber" => some (· == .letterNumber)
  | "no" | "othernumber" => some (· == .otherNumber)
  | "p" | "punctuation" | "punct" => some fun k =>
    k == .connector || k == .dash || k == .opening || k == .closing || k == .initialQuote ||
      k == .finalQuote || k == .otherPunctuation
  | "pc" | "connectorpunctuation" => some (· == .connector)
  | "pd" | "dashpunctuation" => some (· == .dash)
  | "ps" | "openpunctuation" => some (· == .opening)
  | "pe" | "closepunctuation" => some (· == .closing)
  | "pi" | "initialpunctuation" => some (· == .initialQuote)
  | "pf" | "finalpunctuation" => some (· == .finalQuote)
  | "po" | "otherpunctuation" => some (· == .otherPunctuation)
  | "s" | "symbol" => some fun k =>
    k == .mathSign || k == .currency || k == .modifierSign || k == .otherSign
  | "sm" | "mathsymbol" => some (· == .mathSign)
  | "sc" | "currencysymbol" => some (· == .currency)
  | "sk" | "modifiersymbol" => some (· == .modifierSign)
  | "so" | "othersymbol" => some (· == .otherSign)
  | "z" | "separator" => some Category.isSeparator
  | "zs" | "spaceseparator" => some (· == .space)
  | "zl" | "lineseparator" => some (· == .lineSeparator)
  | "zp" | "paragraphseparator" => some (· == .paragraphSeparator)
  | "c" | "other" => some Category.isOther
  | "cc" | "control" | "cntrl" => some (· == .control)
  | "cf" | "format" => some (· == .format)
  | "co" | "privateuse" => some (· == .privateUse)
  | "cn" | "unassigned" => some (· == .unassigned)
  | "any" => some fun _ => true
  | "assigned" => some (· != .unassigned)
  | _ => none

/-- The characters of a category, of a group of categories, or of ASCII. -/
def categorySet? (name : String) : Option CharSet :=
  if name = "ascii" then some (.ofRange 0 0x7F) else (categoryTest? name).map ofCategories

/-- A name as far as it counts, all but the `is` at its start. -/
def plainName (name : List Char) : String :=
  String.ofList ((name.filter fun c => c.toNat < 0x80 && c != ' ' && c != '_' && c != '-').map
    Char.toLower)

/-- A name as far as it counts; `isc` alone is a name of its own. -/
def looseName (name : List Char) : String :=
  match name with
  | i :: s :: rest =>
    if (i = 'i' ∨ i = 'I') ∧ (s = 's' ∨ s = 'S') then
      let plain := plainName rest
      if plain = "c" then "isc" else plain
    else plainName name
  | _ => plainName name

def scriptSet? (name : String) : Option CharSet :=
  (scriptAliases.find? fun e =>
    plainName e.1.toList == name || plainName e.2.toList == name).map fun e => ofScript e.1

/-- The characters of a property, a category or a script by a name as far as it counts. -/
def named? (name : String) : Option CharSet :=
  ((property? name).or (categorySet? name)).or (scriptSet? name)

/-- The characters by the name of a kind of property and of a value of it. -/
def valued? (kind value : String) : Option CharSet :=
  if kind = "gc" ∨ kind = "generalcategory" then categorySet? value
  else if kind = "sc" ∨ kind = "script" then scriptSet? value
  else none

end BrokerFleet.Unicode
