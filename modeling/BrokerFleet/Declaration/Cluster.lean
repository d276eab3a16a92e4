import BrokerFleet.Declaration.Constraint
import BrokerFleet.Object.Metadata

/-! # Declared clusters

What a user declares about a broker cluster, its written form and the constraints on its fields. -/

namespace BrokerFleet

open Json

/-- Config maps and secrets mounted into every broker pod. -/
structure ExtraMounts where
  configMaps : List String := []
  secrets : List String := []
  deriving DecidableEq, Repr, Inhabited

structure PodSelector where
  matchLabels : Dict String String := Dict.empty
  deriving DecidableEq

structure DisruptionBudget where
  minAvailable : Option String := none
  maxUnavailable : Option String := none
  selector : Option PodSelector := none
  deriving DecidableEq

/-- How many replicas there are and what they run. -/
structure DeploymentPlan where
  size : Int32 := 1
  image : Option String := none
  initImage : Option String := none
  extraMounts : ExtraMounts := {}
  podDisruptionBudget : Option DisruptionBudget := none
  deriving DecidableEq

/-- How the management console is served. -/
structure Console where
  expose : Bool := false
  sslEnabled : Bool := false
  sslSecret : Option String := none
  deriving DecidableEq, Repr

structure ClusterSpec where
  version : Option String := none
  deploymentPlan : DeploymentPlan := {}
  console : Console := {}
  deriving DecidableEq

def ExtraMounts.isEmpty (m : ExtraMounts) : Bool := m.configMaps.isEmpty && m.secrets.isEmpty

/-! ## Written forms -/

def ExtraMounts.toJson (m : ExtraMounts) : Json :=
  obj [("configMaps", strs m.configMaps), ("secrets", strs m.secrets)]

def ExtraMounts.ofJson? (v : Json) : Option ExtraMounts := do
  let v ← record ["configMaps", "secrets"] 0 v
  some {
    configMaps := ← defaulted (listOf asStr) [] "configMaps" v
    secrets := ← defaulted (listOf asStr) [] "secrets" v }

def PodSelector.toJson (s : PodSelector) : Json := obj [("matchLabels", ofTexts s.matchLabels)]

def PodSelector.ofJson? (v : Json) : Option PodSelector := do
  let v ← record ["matchLabels"] 0 v
  some { matchLabels := ← defaulted texts Dict.empty "matchLabels" v }

def DisruptionBudget.toJson (b : DisruptionBudget) : Json :=
  obj [("minAvailable", optStr b.minAvailable), ("maxUnavailable", optStr b.maxUnavailable),
    ("selector", orNull (b.selector.map PodSelector.toJson))]

def DisruptionBudget.ofJson? (v : Json) : Option DisruptionBudget := do
  let v ← record ["minAvailable", "maxUnavailable", "selector"] 0 v
  some {
    minAvailable := ← optional asStr "minAvailable" v
    maxUnavailable := ← optional asStr "maxUnavailable" v
    selector := ← optional PodSelector.ofJson? "selector" v }

def DeploymentPlan.toJson (p : DeploymentPlan) : Json :=
  obj [("size", int p.size.toInt), ("image", optStr p.image), ("initImage", optStr p.initImage),
    ("extraMounts", p.extraMounts.toJson),
    ("podDisruptionBudget", orNull (p.podDisruptionBudget.map DisruptionBudget.toJson))]

def DeploymentPlan.ofJson? (v : Json) : Option DeploymentPlan := do
  let v ← record ["size", "image", "initImage", "extraMounts", "podDisruptionBudget"] 0 v
  some {
    size := ← defaulted asInt32 1 "size" v
    image := ← optional asStr "image" v
    initImage := ← optional asStr "initImage" v
    extraMounts := ← defaulted ExtraMounts.ofJson? {} "extraMounts" v
    podDisruptionBudget := ← optional DisruptionBudget.ofJson? "podDisruptionBudget" v }

def Console.toJson (c : Console) : Json :=
  obj [("expose", bool c.expose), ("sslEnabled", bool c.sslEnabled),
    ("sslSecret", optStr c.sslSecret)]

def Console.ofJson? (v : Json) : Option Console := do
  let v ← record ["expose", "sslEnabled", "sslSecret"] 0 v
  some {
    expose := ← defaulted asBool false "expose" v
    sslEnabled := ← defaulted asBool false "sslEnabled" v
    sslSecret := ← optional asStr "sslSecret" v }

namespace ClusterSpec

def toJson (s : ClusterSpec) : Json :=
  obj [("version", optStr s.version), ("deploymentPlan", s.deploymentPlan.toJson),
    ("console", s.console.toJson)]

def ofJson? (v : Json) : Option ClusterSpec := do
  let v ← record ["version", "deploymentPlan", "console"] 0 v
  some {
    version := ← optional asStr "version" v
    deploymentPlan := ← defaulted DeploymentPlan.ofJson? {} "deploymentPlan" v
    console := ← defaulted Console.ofJson? {} "console" v }

end ClusterSpec

/-! ## Constraints -/

def ExtraMounts.violations (m : ExtraMounts) : List Violation :=
  Violation.atField "config_maps" (Constraint.names m.configMaps) ++
    Violation.atField "secrets" (Constraint.names m.secrets)

def DisruptionBudget.violations (b : DisruptionBudget) : List Violation :=
  Violation.atField "min_available" (b.minAvailable.bind Constraint.intOrPercent) ++
    Violation.atField "max_unavailable" (b.maxUnavailable.bind Constraint.intOrPercent)

/-- The violations of a plan: the size lies between 0 and 100. -/
def DeploymentPlan.violations (p : DeploymentPlan) : List Violation :=
  Violation.atField "size"
      (if 0 ≤ p.size.toInt ∧ p.size.toInt ≤ 100 then none else some .sizeRange) ++
    p.extraMounts.violations.map (Violation.under "extra_mounts") ++
    (p.podDisruptionBudget.elim [] DisruptionBudget.violations).map
      (Violation.under "pod_disruption_budget")

/-- The violations of a declared cluster: a version has at most 64 characters. -/
def ClusterSpec.violations (s : ClusterSpec) : List Violation :=
  Violation.atField "version"
      (s.version.bind fun v => if v.length > 64 then some .versionLength else none) ++
    s.deploymentPlan.violations.map (Violation.under "deployment_plan")

end BrokerFleet
