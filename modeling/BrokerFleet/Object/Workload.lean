import BrokerFleet.Object.Core
import BrokerFleet.Object.Shape.Workload

/-! # Stateful sets, services and disruption budgets -/

namespace BrokerFleet

open Json

structure StatefulSetSpec where
  replicas : Option Int32 := none
  serviceName : String := ""
  selector : Option (Dict String String) := none
  podLabels : Option (Dict String String) := none
  pod : Option PodSpec := none
  podManagementPolicy : Option String := none

structure StatefulSet where
  metadata : Metadata := {}
  spec : Option StatefulSetSpec := none

/-- A port of a service, which leads to the same port of the pods. -/
structure ServicePort where
  name : String
  port : Nat
  deriving DecidableEq, Repr

/-- A service without an address of its own that finds its pods by labels, ready or not. -/
structure Service where
  metadata : Metadata
  selector : Dict String String
  ports : List ServicePort

structure PodDisruptionBudget where
  metadata : Metadata
  selector : Dict String String
  minAvailable : Option IntOrString
  maxUnavailable : Option IntOrString

namespace StatefulSet

def selectorJson (labels : Option (Dict String String)) : Json :=
  present [("matchLabels", labels.map ofTexts)]

def specJson (s : StatefulSetSpec) : Json :=
  present [("podManagementPolicy", s.podManagementPolicy.map str),
    ("replicas", s.replicas.map fun n => int n.toInt), ("selector", some (selectorJson s.selector)),
    ("serviceName", some (str s.serviceName)),
    ("template",
      some (present [("metadata", s.podLabels.map fun ls => obj [("labels", ofTexts ls)]),
      ("spec", s.pod.map PodSpec.toJson)]))]

def toJson (s : StatefulSet) : Json :=
  present [("apiVersion", some (str "apps/v1")), ("kind", some (str "StatefulSet")),
    ("metadata", some s.metadata.toJson), ("spec", s.spec.map specJson)]

def spec? (v : Json) : Option StatefulSetSpec := do
  let _ ← asObj v
  let selector ← optional (fun w => do
    let _ ← asObj w
    optional texts "matchLabels" w) "selector" v
  let template ← optional (fun w => do
    let _ ← asObj w
    let metadata ← optional Metadata.ofJson? "metadata" w
    let pod ← optional PodSpec.ofJson? "spec" w
    some (metadata.bind (·.labels), pod)) "template" v
  some {
    replicas := ← optional asInt32 "replicas" v
    serviceName := ← lenient asStr "" "serviceName" v
    selector := selector.getD none
    podLabels := template.bind (·.1)
    pod := template.bind (·.2)
    podManagementPolicy := ← optional asStr "podManagementPolicy" v }

def ofJson? (v : Json) : Option StatefulSet := do
  let v ← Shape.statefulSet.read? v
  some {
    metadata := ← lenient Metadata.ofJson? {} "metadata" v
    spec := ← optional spec? "spec" v }

/-- The number of replicas asked for; a negative or absent number is none. -/
def replicaCount (s : StatefulSet) : Nat :=
  ((s.spec.bind (·.replicas)).getD 0).toInt.toNat

end StatefulSet

def Service.toJson (s : Service) : Json :=
  obj [("apiVersion", str "v1"), ("kind", str "Service"), ("metadata", s.metadata.toJson),
    ("spec", obj [("clusterIP", str "None"),
      ("ports", arr (s.ports.map fun p => obj [("name", str p.name), ("port", int p.port),
        ("protocol", str "TCP"), ("targetPort", int p.port)])),
      ("publishNotReadyAddresses", bool true), ("selector", ofTexts s.selector)])]

def PodDisruptionBudget.toJson (b : PodDisruptionBudget) : Json :=
  obj [("apiVersion", str "policy/v1"), ("kind", str "PodDisruptionBudget"),
    ("metadata", b.metadata.toJson),
    ("spec", present [("maxUnavailable", b.maxUnavailable.map IntOrString.toJson),
      ("minAvailable", b.minAvailable.map IntOrString.toJson),
      ("selector", some (obj [("matchLabels", ofTexts b.selector)]))])]

end BrokerFleet
