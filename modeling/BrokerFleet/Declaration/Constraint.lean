import BrokerFleet.Text.Number

/-! # Constraints on declared fields

A breach says which constraint a field breaks; a violation adds where the field stands. Each list
field reports its first offending item only. -/

namespace BrokerFleet

inductive Breach where
  | versionLength
  | sizeRange
  | addressLength
  | consumerRange
  | nameTooLong
  | invalidName (value : String)
  | notIntOrPercent (value : String)
  | routingType (value : String)
  deriving DecidableEq, Repr

namespace Breach

/-- The short name of the constraint. -/
def code : Breach → String
  | versionLength | addressLength => "length"
  | sizeRange | consumerRange => "range"
  | nameTooLong => "name_too_long"
  | invalidName _ => "invalid_name"
  | notIntOrPercent _ => "invalid_int_or_percent"
  | routingType _ => "invalid_routing_type"

/-- What the constraint demands, where there is a wording for it. -/
def message? : Breach → Option String
  | versionLength => some "version must be at most 64 characters"
  | sizeRange => some "size must be between 0 and 100"
  | addressLength => some "address name must be 1-255 characters"
  | consumerRange => none
  | nameTooLong => some "name exceeds 63 characters"
  | invalidName value => some ("'" ++ value ++ "' is not a valid Kubernetes name (RFC 1123)")
  | notIntOrPercent value =>
    some ("'" ++ value ++ "' must be an integer or percentage (e.g., '1' or '25%')")
  | routingType value => some ("routing type must be ANYCAST or MULTICAST, got '" ++ value ++ "'")

/-- The wording, or the short name where there is none. -/
def text (b : Breach) : String := b.message?.getD ("Validation error: " ++ b.code)

end Breach

/-- A field that breaks a constraint, by the names that lead to it. -/
structure Violation where
  path : List String
  breach : Breach
  deriving DecidableEq, Repr

namespace Violation

/-- The names that lead to the field, joined by points. -/
def place (v : Violation) : String := ".".intercalate v.path

/-- The place and the wording. -/
def render (v : Violation) : String := v.place ++ ": " ++ v.breach.text

/-- The text of several violations, one a line. -/
def renderAll (vs : List Violation) : String := "\n".intercalate (vs.map render)

/-- Moves a violation below an outer field. -/
def under (outer : String) (v : Violation) : Violation := { v with path := outer :: v.path }

/-- The violation of one field, if there is a breach. -/
def atField (name : String) (b : Option Breach) : List Violation :=
  match b with
  | none => []
  | some b => [⟨[name], b⟩]

end Violation

namespace Constraint

/-- Whether a character may stand in a label of RFC 1123. -/
def isLabelChar (c : Char) : Bool := ('a' ≤ c && c ≤ 'z') || ('0' ≤ c && c ≤ '9') || c == '-'

/-- Lowercase letters, digits and hyphens, neither first nor last a hyphen, and at least one. -/
def isLabelText (text : List Char) : Bool :=
  !text.isEmpty && text.all isLabelChar && text.head? != some '-' && text.getLast? != some '-'

/-- Names are labels of RFC 1123 of at most 63 bytes. -/
def name (value : String) : Option Breach :=
  if value.utf8ByteSize > 63 then some .nameTooLong
  else if isLabelText value.toList then none
  else some (.invalidName value)

/-- The breach of the first name that is none. -/
def names (values : List String) : Option Breach := values.findSome? name

/-- The breach of the first name that is none, blank names and the wildcard apart. -/
def targetNames (values : List String) : Option Breach :=
  names (values.filter fun n => n != "" && n != "*")

/-- A threshold is empty, a number, or a number with a percent sign. -/
def intOrPercent (value : String) : Option Breach :=
  let text := value.toList
  let digits := if text.getLast? = some '%' then text.dropLast else text
  if text = [] ∨ (digits ≠ [] ∧ digits.all Text.isDigit) then none
  else some (.notIntOrPercent value)

/-- The two kinds of routing. -/
def routing (value : String) : Option Breach :=
  if value = "ANYCAST" ∨ value = "MULTICAST" then none else some (.routingType value)

end Constraint

end BrokerFleet
