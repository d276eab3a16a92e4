import BrokerFleet.Surroundings
import BrokerFleet.Cluster.Names
import BrokerFleet.Cluster.Version
import BrokerFleet.Text.Sorted

/-! # The status of a cluster, projected

The status is computed anew in every pass from the declaration and from what is observed. An earlier
status serves only to keep the time at which a condition last changed. -/

namespace BrokerFleet

/-- What is observed of a cluster. -/
structure Observed where
  pods : List Pod := []
  externalConfigs : List ExternalConfig := []

namespace Projection

def externalConfig (name : String) (found : Option Metadata) : Option ExternalConfig :=
  found.map fun m => ⟨name, m.resourceVersion.getD ""⟩

/-- Reads the pods and the mounted objects of a cluster. -/
def observe (c : Cluster) : Task Observed := do
  let pods ← Task.listPods c.ns (ClusterNames.ofCluster c).selector
  let mounts := c.spec.deploymentPlan.extraMounts
  let maps ← mounts.configMaps.mapM fun name => do
    pure (externalConfig name ((← Task.getConfigMap ⟨c.ns, name⟩).map (·.metadata)))
  let secrets ← mounts.secrets.mapM fun name => do
    pure (externalConfig name ((← Task.getSecret ⟨c.ns, name⟩).map (·.metadata)))
  pure { pods, externalConfigs := (maps ++ secrets).filterMap id }

/-- The names of the pods by readiness. A planned pod that does not exist is stopped. -/
def summarize (names : ClusterNames) (size : Int32) (pods : List Pod) : PodSummary :=
  let seen := pods.filterMap fun p => podOrdinal? p.metadata.anyName names.statefulSet
  let absent := (List.range size.toInt.toNat).filter fun i => !seen.contains i
  { ready := Text.sorted ((pods.filter Pod.isReady).map (·.metadata.anyName))
    starting := Text.sorted ((pods.filter fun p => !p.isReady).map (·.metadata.anyName))
    stopped := Text.sorted (absent.map names.pod) }

/-- The condition `Deployed`: provisioning went well, and as many pods as planned are ready while
none is starting. -/
def deployed (now : String) (size : Int32) (pods : PodSummary) (provisioningError : Option String) :
    Condition :=
  match provisioningError with
  | some message => .stated now Condition.deployed .no .provisioningFailed message
  | none =>
    if size.toInt ≤ pods.ready.length ∧ pods.starting = [] then
      .stated now Condition.deployed .yes .allPodsReady ""
    else .stated now Condition.deployed .no .podsNotReady
      (toString pods.ready.length ++ "/" ++ toString size.toInt ++ " pods ready")

/-- The conditions that an earlier status hands on. -/
def kept (previous : Option ClusterStatus) : List Condition :=
  match previous with
  | none => []
  | some s => s.conditions.filter fun c =>
    [Condition.valid, Condition.deployed, Condition.ready].contains c.type

def conditions (now : String) (generation : Int64) (previous : Option ClusterStatus)
    (valid deployed : Condition) : List Condition :=
  let observed := fun (c : Condition) => { c with observedGeneration := generation }
  let cs := (observed deployed).install ((observed valid).install (kept previous))
  (observed (Condition.aggregate now cs)).install cs

def project (now : String) (c : Cluster) (previous : Option ClusterStatus) (valid : Condition)
    (provisioningError : Option String) (observed : Observed) : ClusterStatus :=
  let names := ClusterNames.ofCluster c
  let size := c.spec.deploymentPlan.size
  let pods := summarize names size observed.pods
  { deploymentPlanSize := size
    scaleLabelSelector := names.selector
    version := Version.status c.spec
    externalConfigs := observed.externalConfigs.mergeSort fun a b => decide (a.name ≤ b.name)
    podStatus := pods
    conditions :=
      conditions now c.generation previous valid (deployed now size pods provisioningError) }

end Projection

end BrokerFleet
