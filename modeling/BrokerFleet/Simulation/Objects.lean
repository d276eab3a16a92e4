import BrokerFleet.Cluster.Status
import BrokerFleet.Object.Workload
import BrokerFleet.Text.Cut

/-! # Objects held in memory

A store of objects by kind and key. Listings come in the order of keys, restricted to a namespace
and to the objects that a selector selects. -/

namespace BrokerFleet.Simulation

open Text

inductive Kind where
  | cluster
  | statefulSet
  | pod
  | secret
  | configMap
  deriving DecidableEq, Repr

def Kind.ofName? : String → Option Kind
  | "BrokerCluster" => some .cluster
  | "StatefulSet" => some .statefulSet
  | "Pod" => some .pod
  | "Secret" => some .secret
  | "ConfigMap" => some .configMap
  | _ => none

/-- An object of one of the kinds. -/
inductive Stored where
  | cluster (c : Cluster)
  | statefulSet (s : StatefulSet)
  | pod (p : Pod)
  | secret (s : Secret)
  | configMap (m : ConfigMap)

/-- Reads an object of the kind that it names. -/
def Stored.ofJson? (v : Json) : Option Stored := do
  match ← Kind.ofName? (← Json.required Json.asStr "kind" v) with
  | .cluster => (Cluster.ofJson? v).map cluster
  | .statefulSet => (StatefulSet.ofJson? v).map statefulSet
  | .pod => (Pod.ofJson? v).map pod
  | .secret => (Secret.ofJson? v).map secret
  | .configMap => (ConfigMap.ofJson? v).map configMap

structure Objects where
  clusters : Dict ObjectKey Cluster := Dict.empty
  statefulSets : Dict ObjectKey StatefulSet := Dict.empty
  pods : Dict ObjectKey Pod := Dict.empty
  secrets : Dict ObjectKey Secret := Dict.empty
  configMaps : Dict ObjectKey ConfigMap := Dict.empty

namespace Objects

/-- Adds an object, or puts it in the place of an earlier one. -/
def put (o : Objects) : Stored → Objects
  | .cluster c => { o with clusters := o.clusters.insert c.key c }
  | .statefulSet s => { o with statefulSets := o.statefulSets.insert s.metadata.key s }
  | .pod p => { o with pods := o.pods.insert p.metadata.key p }
  | .secret s => { o with secrets := o.secrets.insert s.metadata.key s }
  | .configMap m => { o with configMaps := o.configMaps.insert m.metadata.key m }

def contains (o : Objects) (kind : Kind) (key : ObjectKey) : Bool :=
  match kind with
  | .cluster => o.clusters.contains key
  | .statefulSet => o.statefulSets.contains key
  | .pod => o.pods.contains key
  | .secret => o.secrets.contains key
  | .configMap => o.configMaps.contains key

/-- Removes the object of a kind and key, if there is one. -/
def erase (o : Objects) (kind : Kind) (key : ObjectKey) : Objects :=
  match kind with
  | .cluster => { o with clusters := o.clusters.erase key }
  | .statefulSet => { o with statefulSets := o.statefulSets.erase key }
  | .pod => { o with pods := o.pods.erase key }
  | .secret => { o with secrets := o.secrets.erase key }
  | .configMap => { o with configMaps := o.configMaps.erase key }

end Objects

/-- Whether labels satisfy a term: a key with a value, or a key alone. -/
def satisfies (labels : Dict String String) (term : List Char) : Bool :=
  match splitFirst? '=' term with
  | some (key, value) => labels.get? (String.ofList key) == some (String.ofList value)
  | none => labels.contains (String.ofList term)

/-- Whether labels satisfy every term of a selector, empty terms apart. -/
def selects (selector : String) (labels : Dict String String) : Bool :=
  ((splitOn ',' selector.toList).filter (· ≠ [])).all (satisfies labels)

/-- The objects of a namespace in the order of their keys. -/
def inNamespace {α : Type} (ns : String) (d : Dict ObjectKey α) : List α :=
  (d.filter fun key _ => key.ns == ns).values

end BrokerFleet.Simulation
