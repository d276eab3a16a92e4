import BrokerFleet.Condition
import BrokerFleet.Declaration.Cluster
import BrokerFleet.Declaration.Address

/-! # Cluster objects and their status -/

namespace BrokerFleet

open Json

/-- The version and the images that a cluster runs. -/
structure VersionStatus where
  image : String := ""
  initImage : String := ""
  brokerVersion : String := ""
  deriving DecidableEq, Repr

structure ExternalConfig where
  name : String
  resourceVersion : String
  deriving DecidableEq, Repr

/-- The names of the pods by readiness. -/
structure PodSummary where
  ready : List String := []
  starting : List String := []
  stopped : List String := []
  deriving DecidableEq, Repr

structure ClusterStatus where
  deploymentPlanSize : Int32 := 0
  scaleLabelSelector : String := ""
  version : VersionStatus := {}
  externalConfigs : List ExternalConfig := []
  podStatus : PodSummary := {}
  conditions : List Condition := []
  deriving DecidableEq

structure Cluster where
  metadata : Metadata
  spec : ClusterSpec
  status : Option ClusterStatus := none

def VersionStatus.toJson (v : VersionStatus) : Json :=
  obj [("image", str v.image), ("initImage", str v.initImage),
    ("brokerVersion", str v.brokerVersion)]

def VersionStatus.ofJson? (v : Json) : Option VersionStatus := do
  let v ← record ["image", "initImage", "brokerVersion"] 0 v
  some {
    image := ← defaulted asStr "" "image" v
    initImage := ← defaulted asStr "" "initImage" v
    brokerVersion := ← defaulted asStr "" "brokerVersion" v }

def ExternalConfig.toJson (c : ExternalConfig) : Json :=
  obj [("name", str c.name), ("resourceVersion", str c.resourceVersion)]

def ExternalConfig.ofJson? (v : Json) : Option ExternalConfig := do
  let v ← record ["name", "resourceVersion"] 2 v
  let name ← required asStr "name" v
  let resourceVersion ← required asStr "resourceVersion" v
  some { name, resourceVersion }

def PodSummary.toJson (s : PodSummary) : Json :=
  obj [("ready", strs s.ready), ("starting", strs s.starting), ("stopped", strs s.stopped)]

def PodSummary.ofJson? (v : Json) : Option PodSummary := do
  let v ← record ["ready", "starting", "stopped"] 0 v
  some {
    ready := ← defaulted (listOf asStr) [] "ready" v
    starting := ← defaulted (listOf asStr) [] "starting" v
    stopped := ← defaulted (listOf asStr) [] "stopped" v }

namespace ClusterStatus

def toJson (s : ClusterStatus) : Json :=
  obj [("deploymentPlanSize", int s.deploymentPlanSize.toInt),
    ("scaleLabelSelector", str s.scaleLabelSelector), ("version", s.version.toJson),
    ("externalConfigs", arr (s.externalConfigs.map ExternalConfig.toJson)),
    ("podStatus", s.podStatus.toJson), ("conditions", arr (s.conditions.map Condition.toJson))]

def ofJson? (v : Json) : Option ClusterStatus := do
  let v ← record ["deploymentPlanSize", "scaleLabelSelector", "version",
      "externalConfigs", "podStatus",
    "conditions"] 0 v
  some {
    deploymentPlanSize := ← defaulted asInt32 0 "deploymentPlanSize" v
    scaleLabelSelector := ← defaulted asStr "" "scaleLabelSelector" v
    version := ← defaulted VersionStatus.ofJson? {} "version" v
    externalConfigs := ← defaulted (listOf ExternalConfig.ofJson?) [] "externalConfigs" v
    podStatus := ← defaulted PodSummary.ofJson? {} "podStatus" v
    conditions := ← defaulted (listOf Condition.ofJson?) [] "conditions" v }

/-- Whether the cluster has settled: it is ready. -/
def isQuiescent (s : ClusterStatus) : Bool :=
  (Condition.find? Condition.ready s.conditions).elim false Condition.isTrue

/-- Equality of two statuses, the order, generations and times of their conditions apart. -/
def same (s t : ClusterStatus) : Bool :=
  s.deploymentPlanSize == t.deploymentPlanSize && s.scaleLabelSelector == t.scaleLabelSelector &&
    s.version == t.version && s.externalConfigs == t.externalConfigs &&
    s.podStatus == t.podStatus &&
    Condition.allSame s.conditions t.conditions

end ClusterStatus

namespace Cluster

def toJson (c : Cluster) : Json :=
  present [("apiVersion", some (str declarationVersion)), ("kind", some (str "BrokerCluster")),
    ("metadata", some c.metadata.toJson), ("spec", some c.spec.toJson),
    ("status", c.status.map ClusterStatus.toJson)]

def ofJson? (v : Json) : Option Cluster := do
  let v ← record ["metadata", "spec", "status"] 3 v
  let metadata ← required Metadata.ofJson? "metadata" v
  let spec ← required ClusterSpec.ofJson? "spec" v
  let status ← optional ClusterStatus.ofJson? "status" v
  some { metadata, spec, status }

def key (c : Cluster) : ObjectKey := c.metadata.key

/-- The namespace that a cluster's own objects are looked up in. -/
def ns (c : Cluster) : String := c.metadata.ns.getD ""

def generation (c : Cluster) : Int64 := c.metadata.generation.getD 0

end Cluster

end BrokerFleet
