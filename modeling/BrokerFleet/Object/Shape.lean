import BrokerFleet.Json.Order
import BrokerFleet.Json.Sound
import BrokerFleet.Json.Decoder
import BrokerFleet.Object.Time
import BrokerFleet.Text.Base64

/-! # Shapes of API objects

A shape says which fields an object of the API has and what they hold, whether the operator uses
them or not. A document of a shape is read into its normal form: unknown and absent fields are left
out, needed fields are there, and times, bytes and numbers are written in one way. -/

namespace BrokerFleet

open Json

/-- What a part of an object holds. The fields of a record come with whether they are needed; a
needed field that is absent is blank. -/
inductive Shape where
  | text
  | flag
  | int32
  | int64
  | time
  | bytes
  | intOrText
  | anything
  | list (item : Shape)
  | dict (value : Shape)
  | record (fields : List (String × Bool × Shape))
  /-- A record that may name its version and kind, and then names the given ones. -/
  | resource (apiVersion kind : String) (fields : List (String × Bool × Shape))

/-- Whether an object names the given version and kind, where it names any. -/
def isOfKind (apiVersion kind : String) (v : Json) : Bool :=
  let agrees := fun (key expected : String) => (v.valuesOf key).all fun
    | .str s => s == expected
    | _ => false
  agrees "apiVersion" apiVersion && agrees "kind" kind

namespace Shape

mutual

/-- What stands for a needed part that is absent. -/
def blank : Shape → Json
  | text | bytes => str ""
  | flag => bool false
  | int32 | int64 | intOrText => int 0
  | time => str "1970-01-01T00:00:00Z"
  | anything => null
  | list _ => arr []
  | dict _ => obj []
  | record fields => obj (blanks fields)
  | resource apiVersion kind fields =>
    obj (("apiVersion", str apiVersion) :: ("kind", str kind) :: blanks fields)

/-- The needed fields of a record, all blank. -/
def blanks : List (String × Bool × Shape) → List (String × Json)
  | [] => []
  | (key, needed, shape) :: rest =>
    if needed then (key, blank shape) :: blanks rest else blanks rest

end

/-- The normal form of a time. -/
def time? (v : Json) : Option Json :=
  (asStr v).bind fun s => (Timestamp.parse? s).map fun t => str t.render

/-- The normal form of bytes; null is no bytes. -/
def bytes? : Decoder Json
  | null => some (str "")
  | v =>
    (asStr v).bind fun s => (Text.Base64.decode? s.toList).map fun b => str (Text.Base64.render b)

mutual

/-- The parts of a document that its shape knows, each in normal form. -/
def conform? : Shape → Decoder Json
  | text => fun v => (asStr v).map str
  | flag => fun v => (asBool v).map bool
  | int32 => fun v => (asInt32 v).map fun n => int n.toInt
  | int64 => fun v => (asInt64 v).map fun n => int n.toInt
  | time => time?
  | bytes => bytes?
  | intOrText => fun v => ((asStr v).map str).or ((asInt32 v).map fun n => int n.toInt)
  | anything => fun v => if v.isSound depthLimit then some v.inOrder else none
  | list item => fun v => (listOf (conform? item) v).map arr
  | dict value => fun v => (dictOf (conform? value) v).map fun d => obj d.entries
  | record fields => fun v => (asObj v).bind fun _ => (readFields fields v).map obj
  | resource apiVersion kind fields => fun v => (asObj v).bind fun _ =>
    if isOfKind apiVersion kind v then
      (readFields fields v).map fun known =>
        obj (("apiVersion", str apiVersion) :: ("kind", str kind) :: known)
    else none

/-- The fields of a record that it knows. -/
def readFields : List (String × Bool × Shape) → Json → Option (List (String × Json))
  | [], _ => some []
  | (key, needed, shape) :: rest, v =>
    (optional (conform? shape) key v).bind fun found => (readFields rest v).map fun others =>
      match found with
      | some w => (key, w) :: others
      | none => if needed then (key, blank shape) :: others else others

end

/-- Reads a document of a shape into its normal form, with the fields in order. -/
def read? (shape : Shape) : Decoder Json := fun v => (shape.conform? v).map inOrder

def may (shape : Shape) (keys : List String) : List (String × Bool × Shape) :=
  keys.map fun key => (key, false, shape)

/-- Fields of one shape that are needed. -/
def must (shape : Shape) (keys : List String) : List (String × Bool × Shape) :=
  keys.map fun key => (key, true, shape)

end Shape

end BrokerFleet
