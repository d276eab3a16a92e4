import BrokerFleet.Cluster.Status
import BrokerFleet.Text.Cut

/-! # Names of the objects of a cluster

Every name is derived from the name of the cluster alone, so no look-up is needed to find a
replica. -/

namespace BrokerFleet

/-- The parts that are not empty, joined by hyphens. -/
def hyphenated (parts : List String) : String := "-".intercalate (parts.filter (· ≠ ""))

/-- The label that names the cluster of a pod. -/
def clusterLabel : String := "broker.operator.dev/cluster"

/-- The label that groups the objects of an application. -/
def applicationLabel : String := "application"

/-- The names of the objects of a cluster. -/
structure ClusterNames where
  cluster : String
  statefulSet : String
  headlessService : String
  pingService : String
  container : String
  credentialsSecret : String
  consoleSecret : String
  nettySecret : String
  managementSecret : String
  dataPath : String
  deriving DecidableEq, Repr

def statefulSetName (cluster : String) : String := hyphenated [cluster, "ss"]

/-- The cluster of a stateful set by its name; a name without the ending stands for itself. -/
def clusterOfStatefulSet (statefulSet : String) : String :=
  match Text.dropTail? ['-', 's', 's'] statefulSet.toList with
  | some cluster => String.ofList cluster
  | none => statefulSet

/-- The ordinal of a pod of a stateful set, by its name. -/
def podOrdinal? (pod statefulSet : String) : Option Nat := do
  let rest ← Text.dropHead? statefulSet.toList pod.toList
  let digits ← Text.dropHead? ['-'] rest
  Text.natBelow? 4294967296 digits

def clusterLabels (cluster : String) : Dict String String :=
  .ofList [(applicationLabel, hyphenated [cluster, "app"]), (clusterLabel, cluster)]

def addressLabels (address : String) : Dict String String :=
  .ofList [(applicationLabel, hyphenated [address, "addr"])]

/-- Labels as a selector: terms of a key, an equals sign and a value, joined by commas. -/
def selectorOf (labels : Dict String String) : String :=
  ",".intercalate (labels.entries.map fun e => e.1 ++ "=" ++ e.2)

namespace ClusterNames

def ofName (cluster : String) : ClusterNames where
  cluster := cluster
  statefulSet := statefulSetName cluster
  headlessService := hyphenated [cluster, "hdls", "svc"]
  pingService := hyphenated [cluster, "ping", "svc"]
  container := hyphenated [cluster, "container"]
  credentialsSecret := hyphenated [cluster, "credentials", "secret"]
  consoleSecret := hyphenated [cluster, "console", "secret"]
  nettySecret := hyphenated [cluster, "netty", "secret"]
  managementSecret := hyphenated [cluster, "management", "secret"]
  dataPath := "/opt/" ++ cluster ++ "/data"

/-- The names of a declared cluster, which may name a console secret of its own. -/
def ofCluster (c : Cluster) : ClusterNames :=
  let names := ofName c.metadata.anyName
  match c.spec.console.sslSecret.filter (· ≠ "") with
  | some secret => { names with consoleSecret := secret }
  | none => names

def labels (n : ClusterNames) : Dict String String := clusterLabels n.cluster

def selector (n : ClusterNames) : String := selectorOf n.labels

/-- The name of the pod of an ordinal. -/
def pod (n : ClusterNames) (ordinal : Nat) : String := n.statefulSet ++ "-" ++ toString ordinal

/-- The domain name of the replica of an ordinal. -/
def fqdn (n : ClusterNames) (ordinal : Nat) (ns domain : String) : String :=
  n.pod ordinal ++ "." ++ n.headlessService ++ "." ++ ns ++ ".svc." ++ domain

end ClusterNames

end BrokerFleet
