import BrokerFleet.Declaration.Queue
import BrokerFleet.Object.Metadata

/-! # Declared addresses

What a user declares about an address, and a queue on it, that has to exist on every replica of the
clusters it applies to. -/

namespace BrokerFleet

open Json

structure AddressSpec where
  addressName : String
  queueName : Option String := none
  routingType : Option String := none
  removeFromBrokerOnDelete : Bool := false
  applyToClusterNames : List String := []
  queueConfiguration : Option QueueSettings := none
  deriving DecidableEq

namespace AddressSpec

/-- The declared queue; an empty name declares none. -/
def queue? (s : AddressSpec) : Option String := s.queueName.filter (· ≠ "")

def toJson (s : AddressSpec) : Json :=
  obj [("addressName", str s.addressName), ("queueName", optStr s.queueName),
    ("routingType", optStr s.routingType),
    ("removeFromBrokerOnDelete", bool s.removeFromBrokerOnDelete),
    ("applyToClusterNames", strs s.applyToClusterNames),
    ("queueConfiguration", orNull (s.queueConfiguration.map QueueSettings.toJson))]

def ofJson? (v : Json) : Option AddressSpec := do
  let v ← record ["addressName", "queueName", "routingType", "removeFromBrokerOnDelete",
    "applyToClusterNames", "queueConfiguration"] 1 v
  some {
    addressName := ← required asStr "addressName" v
    queueName := ← optional asStr "queueName" v
    routingType := ← optional asStr "routingType" v
    removeFromBrokerOnDelete := ← defaulted asBool false "removeFromBrokerOnDelete" v
    applyToClusterNames := ← defaulted (listOf asStr) [] "applyToClusterNames" v
    queueConfiguration := ← optional QueueSettings.ofJson? "queueConfiguration" v }

/-- The violations of a declared address: an address name has 1 to 255 characters. -/
def violations (s : AddressSpec) : List Violation :=
  Violation.atField "address_name"
      (if 1 ≤ s.addressName.length ∧ s.addressName.length ≤ 255 then none
        else some .addressLength) ++
    Violation.atField "routing_type" (s.routingType.bind Constraint.routing) ++
    Violation.atField "apply_to_cluster_names" (Constraint.targetNames s.applyToClusterNames) ++
    (s.queueConfiguration.elim [] QueueSettings.violations).map
      (Violation.under "queue_configuration")

end AddressSpec

/-- The version under which clusters and addresses are declared. -/
def declarationVersion : String := "broker.operator.dev/v1beta1"

structure Address where
  metadata : Metadata
  spec : AddressSpec

namespace Address

def toJson (a : Address) : Json :=
  obj [("apiVersion", str declarationVersion), ("kind", str "BrokerAddress"),
    ("metadata", a.metadata.toJson), ("spec", a.spec.toJson)]

def ofJson? (v : Json) : Option Address := do
  let v ← record ["metadata", "spec"] 2 v
  let metadata ← required Metadata.ofJson? "metadata" v
  let spec ← required AddressSpec.ofJson? "spec" v
  some ⟨metadata, spec⟩

end Address

end BrokerFleet
