import BrokerFleet.Object.Workload
import BrokerFleet.Cluster.Names
import BrokerFleet.Cluster.Version
import BrokerFleet.Handler.Basic
import BrokerFleet.Replica.Resolve

/-! # The workload of a cluster

The stateful set that runs the replicas, the services that make them known, and the disruption
budget. -/

namespace BrokerFleet

/-- The name of the manager of the objects. -/
def manager : String := "broker-operator"

def managerLabel : String := "app.kubernetes.io/managed-by"

/-- A named and namespaced cluster whose workload can be built. -/
structure WorkloadPlan where
  cluster : Cluster
  ns : String

namespace WorkloadPlan

/-- The port that brokers accept connections on. -/
def acceptorPort : Nat := 61616

/-- The port of the console and the management endpoint. -/
def consolePort : Nat := 8161

/-- The port on which replicas find each other. -/
def pingPort : Nat := 8888

/-- Where the init container writes the configuration. -/
def initDir : String := "/amq/init/config"

/-- The profile that handlers are asked for. -/
def profile : String := "default"

/-- The volume that holds the configuration. -/
def initVolume : String := "amq-cfg-dir"

def configMapDir : String := "/amq/extra/configmaps"

def secretDir : String := "/amq/extra/secrets"

/-- The plan of a cluster, which needs a name and a namespace. -/
def ofCluster (c : Cluster) : Except Failure WorkloadPlan :=
  match c.metadata.name, c.metadata.ns with
  | none, _ => .error (.invalidConfig "cluster name is required")
  | some _, none => .error (.invalidConfig "cluster namespace is required")
  | some _, some ns => .ok ⟨c, ns⟩

def names (p : WorkloadPlan) : ClusterNames := .ofCluster p.cluster

/-- The reference by which the cluster owns its objects. -/
def owner (p : WorkloadPlan) : OwnerReference where
  apiVersion := declarationVersion
  kind := "BrokerCluster"
  name := p.names.cluster
  uid := p.cluster.metadata.uid.getD ""
  controller := some true
  blockOwnerDeletion := some true

def metadata (p : WorkloadPlan) (name : String) : Metadata where
  name := some name
  ns := some p.ns
  labels := some (p.names.labels.insert managerLabel manager)
  ownerReferences := some [p.owner]

/-! ## Volumes -/

def volumeName (name : String) : String := name ++ "-volume"

/-- A volume that is only read, and where it is mounted. -/
def readMount (name path : String) : VolumeMount := ⟨name, path, some true⟩

/-- Where the volume of the console secret is mounted. -/
def consolePath (p : WorkloadPlan) : String := "/etc/" ++ volumeName p.names.consoleSecret

def encrypted (p : WorkloadPlan) : Bool := p.cluster.spec.console.sslEnabled

/-- The mounts of the broker container with their volumes: the configuration, the extra config maps,
the extra secrets and the console secret. -/
def mountedVolumes (p : WorkloadPlan) : List (Volume × VolumeMount) :=
  let mounts := p.cluster.spec.deploymentPlan.extraMounts
  [(⟨initVolume, .emptyDir⟩, ⟨initVolume, initDir, none⟩)] ++
    (mounts.configMaps.map fun n =>
      (⟨volumeName n, .configMap n⟩, readMount (volumeName n) (configMapDir ++ "/" ++ n))) ++
    (mounts.secrets.map fun n =>
      (⟨volumeName n, .secret n⟩, readMount (volumeName n) (secretDir ++ "/" ++ n))) ++
    (if p.encrypted then
      let secret := p.names.consoleSecret
      [(⟨volumeName secret, .secret secret⟩, readMount (volumeName secret) p.consolePath)]
    else [])

/-! ## Containers -/

/-- A variable taken from the credentials secret, if it holds the key. -/
def credential (p : WorkloadPlan) (key : String) : EnvVar where
  name := key
  secretKeyRef := some { name := p.names.credentialsSecret, key, isOptional := some true }

def environment (p : WorkloadPlan) : List EnvVar :=
  [p.credential Credentials.userVariable, p.credential Credentials.passwordVariable,
    { name := "BROKER_DATA_DIR", value := some p.names.dataPath }] ++
    (if p.encrypted then
      [{ name := Credentials.consoleVariable,
         value := some ("--ssl-key " ++ p.consolePath ++ "/broker.ks --ssl-trust " ++
           p.consolePath ++ "/client.ts") }]
    else [])

def brokerContainer (p : WorkloadPlan) : Container where
  name := p.names.container
  image := some (Version.status p.cluster.spec).image
  env := some p.environment
  ports := some [⟨"all", acceptorPort⟩, ⟨"console", consolePort⟩]
  readinessProbe := some ⟨acceptorPort, 5, 10⟩
  volumeMounts := some (p.mountedVolumes.map (·.2))

/-- The container that writes the configuration, before a handler has its say. -/
def plainInitContainer (p : WorkloadPlan) : Container where
  name := p.names.container ++ "-init"
  image := some (Version.status p.cluster.spec).initImage
  args := some ["--output", initDir]
  volumeMounts := some [⟨initVolume, initDir, none⟩]

/-- The container that writes the configuration, with the arguments of the handler if there is
one. -/
def initContainer (p : WorkloadPlan) (handler : Option ConfigHandler) : Container :=
  let plain := p.plainInitContainer
  match handler with
  | none => plain
  | some h =>
    let version := (Version.status p.cluster.spec).brokerVersion
    { plain with args := some (h.arguments [plain] initDir version profile) }

/-! ## Objects -/

def statefulSet (p : WorkloadPlan) (handler : Option ConfigHandler) : StatefulSet where
  metadata := p.metadata p.names.statefulSet
  spec := some {
    replicas := some p.cluster.spec.deploymentPlan.size
    serviceName := p.names.headlessService
    selector := some p.names.labels
    podLabels := some p.names.labels
    pod := some {
      initContainers := some [p.initContainer handler]
      containers := [p.brokerContainer]
      volumes := some (p.mountedVolumes.map (·.1)) }
    podManagementPolicy := some "OrderedReady" }

/-- The service that gives every replica a stable name. -/
def headlessService (p : WorkloadPlan) : Service where
  metadata := p.metadata p.names.headlessService
  selector := p.names.labels
  ports := [⟨"all", acceptorPort⟩, ⟨"console", consolePort⟩]

/-- The service on which replicas find each other. -/
def pingService (p : WorkloadPlan) : Service where
  metadata := p.metadata p.names.pingService
  selector := p.names.labels
  ports := [⟨"ping", pingPort⟩]

/-- A threshold as a number of 32 bits where it is one, else as a text. -/
def threshold (text : String) : IntOrString :=
  match Text.int32? text.toList with
  | some n => .int n.toInt
  | none => .str text

def disruptionBudget? (p : WorkloadPlan) : Option PodDisruptionBudget :=
  p.cluster.spec.deploymentPlan.podDisruptionBudget.map fun b => {
    metadata := p.metadata (p.names.cluster ++ "-pdb")
    selector := p.names.labels
    minAvailable := b.minAvailable.map threshold
    maxUnavailable := b.maxUnavailable.map threshold }

end WorkloadPlan

/-- Refuses an object that carries the label of another manager. -/
def verifyOwnership (existing : Metadata) : Except Failure Unit :=
  match existing.label? managerLabel with
  | none => .ok ()
  | some other =>
    if other = manager then .ok ()
    else .error (.invalidConfig ("resource '" ++ existing.name.getD "<unknown>" ++
      "' is managed by '" ++ other ++ "', not " ++ manager ++
      "; refusing to force-apply to avoid ownership conflict"))

end BrokerFleet
