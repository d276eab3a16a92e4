import BrokerFleet.Object.Key
import BrokerFleet.Object.Shape.Metadata

/-! # Metadata of objects

Every object carries metadata. An absent field is not written; in written form the fields stand in
alphabetical order. -/

namespace BrokerFleet

open Json

/-- A reference from an object to one that owns it. -/
structure OwnerReference where
  apiVersion : String
  kind : String
  name : String
  uid : String
  controller : Option Bool
  blockOwnerDeletion : Option Bool
  deriving DecidableEq, Repr

structure Metadata where
  name : Option String := none
  generateName : Option String := none
  ns : Option String := none
  uid : Option String := none
  generation : Option Int64 := none
  resourceVersion : Option String := none
  labels : Option (Dict String String) := none
  annotations : Option (Dict String String) := none
  finalizers : Option (List String) := none
  creationTimestamp : Option Timestamp := none
  deletionTimestamp : Option Timestamp := none
  deletionGracePeriodSeconds : Option Int64 := none
  /-- Notes of who manages which fields, in normal form. -/
  managedFields : Option (List Json) := none
  selfLink : Option String := none
  ownerReferences : Option (List OwnerReference) := none
  deriving Inhabited

namespace OwnerReference

def toJson (r : OwnerReference) : Json :=
  present [("apiVersion", some (str r.apiVersion)),
    ("blockOwnerDeletion", r.blockOwnerDeletion.map bool), ("controller", r.controller.map bool),
    ("kind", some (str r.kind)), ("name", some (str r.name)), ("uid", some (str r.uid))]

def ofJson? (v : Json) : Option OwnerReference := do
  let _ ← asObj v
  some {
    apiVersion := ← lenient asStr "" "apiVersion" v
    kind := ← lenient asStr "" "kind" v
    name := ← lenient asStr "" "name" v
    uid := ← lenient asStr "" "uid" v
    controller := ← optional asBool "controller" v
    blockOwnerDeletion := ← optional asBool "blockOwnerDeletion" v }

end OwnerReference

namespace Metadata

def time : Decoder Timestamp
  | .str s => Timestamp.parse? s
  | _ => none

def toJson (m : Metadata) : Json :=
  present [
    ("annotations", m.annotations.map ofTexts),
    ("creationTimestamp", m.creationTimestamp.map fun t => str t.render),
    ("deletionGracePeriodSeconds", m.deletionGracePeriodSeconds.map fun n => int n.toInt),
    ("deletionTimestamp", m.deletionTimestamp.map fun t => str t.render),
    ("finalizers", m.finalizers.map strs),
    ("generateName", m.generateName.map str),
    ("generation", m.generation.map fun g => int g.toInt),
    ("labels", m.labels.map ofTexts),
    ("managedFields", m.managedFields.map arr),
    ("name", m.name.map str),
    ("namespace", m.ns.map str),
    ("ownerReferences", m.ownerReferences.map fun rs => arr (rs.map OwnerReference.toJson)),
    ("resourceVersion", m.resourceVersion.map str),
    ("selfLink", m.selfLink.map str),
    ("uid", m.uid.map str)]

def ofJson? (v : Json) : Option Metadata := do
  let v ← Shape.metadata.read? v
  some {
    name := ← optional asStr "name" v
    generateName := ← optional asStr "generateName" v
    ns := ← optional asStr "namespace" v
    uid := ← optional asStr "uid" v
    generation := ← optional asInt64 "generation" v
    resourceVersion := ← optional asStr "resourceVersion" v
    labels := ← optional texts "labels" v
    annotations := ← optional texts "annotations" v
    finalizers := ← optional (listOf asStr) "finalizers" v
    creationTimestamp := ← optional time "creationTimestamp" v
    deletionTimestamp := ← optional time "deletionTimestamp" v
    deletionGracePeriodSeconds := ← optional asInt64 "deletionGracePeriodSeconds" v
    managedFields := ← optional asArr "managedFields" v
    selfLink := ← optional asStr "selfLink" v
    ownerReferences := ← optional (listOf OwnerReference.ofJson?) "ownerReferences" v }

/-- The name, else the name to generate from, else nothing. -/
def anyName (m : Metadata) : String := (m.name.or m.generateName).getD ""

/-- The key of an object; one without a namespace belongs to `default`. -/
def key (m : Metadata) : ObjectKey := ⟨m.ns.getD "default", m.anyName⟩

/-- The labels, none when there are no labels at all. -/
def labelSet (m : Metadata) : Dict String String := m.labels.getD Dict.empty

def label? (m : Metadata) (name : String) : Option String := m.labelSet.get? name

end Metadata

end BrokerFleet
