import BrokerFleet.Json.Value

/-! # Decoding typed values

A decoder reads a typed value off a JSON value or fails; no message tells why. Nothing is converted:
a text is never a number, and a number with a fraction or an exponent is never an integer. Unknown
fields are ignored, whatever they hold. -/

namespace BrokerFleet.Json

/-- What reads a typed value off a JSON value. -/
abbrev Decoder (α : Type) := Json → Option α

def asBool : Decoder Bool
  | bool b => some b
  | _ => none

def asStr : Decoder String
  | str s => some s
  | _ => none

def asInt : Decoder Int
  | int n => some n
  | _ => none

def asArr : Decoder (List Json)
  | arr items => some items
  | _ => none

def asObj : Decoder (List (String × Json))
  | obj fields => some fields
  | _ => none

def asNatBelow (bound : Nat) : Decoder Nat
  | int n => if 0 ≤ n ∧ n < bound then some n.toNat else none
  | _ => none

def asInt32 : Decoder Int32
  | int n => if -2147483648 ≤ n ∧ n < 2147483648 then some (Int32.ofInt n) else none
  | _ => none

def asInt64 : Decoder Int64
  | int n => if -9223372036854775808 ≤ n ∧ n < 9223372036854775808
    then some (Int64.ofInt n) else none
  | _ => none

def asNat16 : Decoder Nat := asNatBelow 65536
def asNat32 : Decoder Nat := asNatBelow 4294967296
def asNat64 : Decoder Nat := asNatBelow 18446744073709551616

variable {α : Type}

/-- Null as absence. -/
def nullable (d : Decoder α) : Decoder (Option α)
  | null => some none
  | v => (d v).map some

def all (d : Decoder α) : List Json → Option (List α)
  | [] => some []
  | v :: rest => do
    let a ← d v
    let as ← all d rest
    some (a :: as)

def listOf (d : Decoder α) : Decoder (List α)
  | arr items => all d items
  | _ => none

def allFields (d : Decoder α) : List (String × Json) → Option (List (String × α))
  | [] => some []
  | (k, v) :: rest => do
    let a ← d v
    let as ← allFields d rest
    some ((k, a) :: as)

def dictOf (d : Decoder α) : Decoder (Dict String α)
  | obj fields => (allFields d fields).map Dict.ofList
  | _ => none

def texts : Decoder (Dict String String) := dictOf asStr

/-- The word of a value without parts: a text, or an object with the word as its only field,
null. -/
def asWord : Decoder String
  | str s => some s
  | obj [(s, null)] => some s
  | _ => none

/-! ## Fields of an object

A field may be repeated: every occurrence has to decode, and the last one counts. -/

/-- The values of a field in order. -/
def valuesOf (key : String) (v : Json) : List Json :=
  match v with
  | obj fields => fields.filterMap fun e => if e.1 = key then some e.2 else none
  | _ => []

/-- The last value of a field, if there is one. -/
def last? (d : Decoder α) (key : String) (v : Json) : Option (Option α) :=
  (all d (v.valuesOf key)).map (·.getLast?)

def required (d : Decoder α) (key : String) (v : Json) : Option α := (last? d key v).join

/-- A field that takes a default when it is missing; null is no default. -/
def defaulted (d : Decoder α) (default : α) (key : String) (v : Json) : Option α :=
  (last? d key v).map (·.getD default)

/-- A field that may be missing or null. -/
def optional (d : Decoder α) (key : String) (v : Json) : Option (Option α) :=
  (last? (nullable d) key v).map (·.join)

/-- A field that takes a default when it is missing or null. -/
def lenient (d : Decoder α) (default : α) (key : String) (v : Json) : Option α :=
  (optional d key v).map (·.getD default)

/-! ## Records -/

/-- An object in which none of the given fields is repeated. -/
def unrepeated (keys : List String) : Decoder Json
  | obj fields =>
    if keys.all fun k => ((obj fields).valuesOf k).length ≤ 1 then some (obj fields) else none
  | _ => none

/-- A record with the given fields: an object in which none of them is repeated, or the list of
their values in order, which may end early once it has so many. -/
def record (keys : List String) (least : Nat) : Decoder Json
  | arr items =>
    if least ≤ items.length ∧ items.length ≤ keys.length then some (obj (keys.zip items)) else none
  | v => unrepeated keys v

end BrokerFleet.Json
