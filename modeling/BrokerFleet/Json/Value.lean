import BrokerFleet.Dict

/-! # JSON values

Objects keep their fields in order and whole numbers are integers. What no one computes with is kept
as the text that wrote it: every other number, and what is well written but spells no text. -/

namespace BrokerFleet

inductive Json where
  | null
  | bool (b : Bool)
  | int (n : Int)
  | literal (text : String)
  | str (s : String)
  | arr (items : List Json)
  | obj (fields : List (String × Json))
  deriving Inhabited

namespace Json

/-- The value of a field of a list of fields, the last of its name winning. -/
def field? (key : String) : List (String × Json) → Option Json
  | [] => none
  | (k, v) :: rest => (field? key rest).or (if k = key then some v else none)

def get? (v : Json) (key : String) : Option Json :=
  match v with
  | obj fields => field? key fields
  | _ => none

/-- An optional value, absence being null. -/
def orNull : Option Json → Json := (·.getD null)

/-- A text, absence being null. -/
def optStr (s : Option String) : Json := orNull (s.map str)

def strs (items : List String) : Json := arr (items.map str)

/-- A dictionary as an object, its keys in order. -/
def ofDict {ν : Type} (d : Dict String ν) (f : ν → Json) : Json :=
  obj (d.entries.map fun e => (e.1, f e.2))

def ofTexts (d : Dict String String) : Json := ofDict d str

/-- An object of the fields that are present. -/
def present (fields : List (String × Option Json)) : Json :=
  obj (fields.filterMap fun e => e.2.map (e.1, ·))

/-- Every integer that a JSON document carries as one: those of 64 bits, with or without sign. -/
def inRange (n : Int) : Bool := -9223372036854775808 ≤ n && n < 18446744073709551616

end Json

end BrokerFleet
