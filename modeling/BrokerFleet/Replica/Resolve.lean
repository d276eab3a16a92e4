import BrokerFleet.Surroundings
import BrokerFleet.Cluster.Names
import BrokerFleet.Replica.Selector

/-! # Finding replicas

The replicas of the selected clusters are found anew each time, because their number and their
credentials may change between passes. A cluster without a stateful set has nothing deployed yet and
is passed over; a replica without a pod is reported as unavailable. -/

namespace BrokerFleet

def ClusterSelector.clusters (ns : String) : ClusterSelector → Task (List ObjectKey)
  | all => do
    let found ← Task.listClusters (some ns)
    pure (found.map Cluster.key)
  | named names => pure (names.map fun n => ⟨ns, n⟩)

namespace Credentials

def userKey : String := "managementUser"

def passwordKey : String := "managementPassword"

/-- The variable of a broker container that holds the user. -/
def userVariable : String := "BROKER_USER"

/-- The variable of a broker container that holds the password. -/
def passwordVariable : String := "BROKER_PASSWORD"

/-- The variable of a broker container that says that its console is encrypted. -/
def consoleVariable : String := "BROKER_CONSOLE_ARGS"

/-- The value of a variable: a literal that is not empty, else the key of a secret, else nothing. -/
def variableValue (ns : String) (v : EnvVar) : Task String :=
  match v.value.filter (· ≠ ""), v.secretKeyRef with
  | some value, _ => pure value
  | none, none => pure ""
  | none, some ref => do
    let secret ← Task.getSecret ⟨ns, ref.name⟩
    pure ((secret.bind (·.value? ref.key)).getD "")

/-- The user and password of a management secret, if it holds a user. -/
def ofManagementSecret? (secret : Option Secret) : Option Credentials := do
  let s ← secret
  let user ← s.value? userKey
  some { user, password := (s.value? passwordKey).getD "" }

/-- What a variable adds: the user and password unless they are settled, and the protocol. -/
def addVariable (ns : String) (settled : Bool) (c : Credentials) (v : EnvVar) : Task Credentials :=
  if v.name = userVariable ∧ ¬ settled then do
    pure { c with user := ← variableValue ns v }
  else if v.name = passwordVariable ∧ ¬ settled then do
    pure { c with password := ← variableValue ns v }
  else if v.name = consoleVariable then do
    if (← variableValue ns v) = "" then pure c else pure { c with protocol := .https }
  else pure c

def brokerVariables (pod : Pod) : List EnvVar :=
  ((pod.spec.bind (·.containers.head?)).bind (·.env)).getD []

/-- The credentials for a pod: the management secret first, else the variables of the broker. -/
def resolve (ns : String) (names : ClusterNames) (pod : Pod) : Task Credentials := do
  let secret ← Task.getSecret ⟨ns, names.managementSecret⟩
  let given := ofManagementSecret? secret
  (brokerVariables pod).foldlM (addVariable ns given.isSome) (given.getD {})

end Credentials

namespace ResolvedTargets

/-- One planned replica: a target if its pod exists, else unavailable. -/
def replica (domain : String) (cluster : ObjectKey) (ordinal : Nat) : Task ResolvedTargets := do
  let names := ClusterNames.ofName cluster.name
  let fqdn := names.fqdn ordinal cluster.ns domain
  match ← Task.getPod ⟨cluster.ns, names.pod ordinal⟩ with
  | some pod => do
    let credentials ← Credentials.resolve cluster.ns names pod
    pure { targets := [{ cluster, ordinal, fqdn, credentials }] }
  | none => pure { unavailable := [⟨fqdn, "pod " ++ names.pod ordinal ++ " not found"⟩] }

/-- The selections of a list, joined in order. -/
def joinAll (rs : List ResolvedTargets) : ResolvedTargets := rs.foldr append {}

def ofCluster (domain : String) (cluster : ObjectKey) : Task ResolvedTargets := do
  match ← Task.getStatefulSet ⟨cluster.ns, statefulSetName cluster.name⟩ with
  | none => pure {}
  | some set => joinAll <$> (List.range set.replicaCount).mapM (replica domain cluster)

def resolve (domain ns : String) (selector : ClusterSelector) : Task ResolvedTargets := do
  let clusters ← selector.clusters ns
  joinAll <$> clusters.mapM (ofCluster domain)

end ResolvedTargets

end BrokerFleet
