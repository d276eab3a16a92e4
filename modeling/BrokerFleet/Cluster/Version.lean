import BrokerFleet.Text.Blank
import BrokerFleet.Text.Cut
import BrokerFleet.Cluster.Status

/-! # Versions and images

Which broker versions can be deployed, and which images a declaration leads to. -/

namespace BrokerFleet.Version

/-- The versions that can be deployed, oldest first. -/
def supported : List String := ["2.27.0", "2.27.1", "2.28.0", "2.29.0", "2.30.0"]

def latest : String := "2.30.0"

/-- The supported version for a declared one: itself, or the newest that continues it after a
point. -/
def resolve? (declared : String) : Option String :=
  let text := Text.trim declared
  if text = "" then none
  else match supported.find? (· == text) with
    | some exact => some exact
    | none =>
      supported.reverse.find? fun v => (Text.dropHead? (text.toList ++ ['.']) v.toList).isSome

/-- The image value that pins nothing. -/
def placeholder : String := "placeholder"

def isPinned (image : Option String) : Bool := image.any fun i => i != "" && i != placeholder

/-- The default broker image of a version. -/
def image (version : String) : String := "quay.io/broker-operator/broker-kubernetes:" ++ version

/-- The default init image of a version. -/
def initImage (version : String) : String :=
  "quay.io/broker-operator/broker-kubernetes-init:" ++ version

/-- The version and images of a declaration. Two pinned images without a version carry their own. -/
def status (spec : ClusterSpec) : VersionStatus :=
  let plan := spec.deploymentPlan
  let version := match spec.version.bind resolve? with
    | some v => v
    | none => if isPinned plan.image && isPinned plan.initImage then "" else latest
  { image := (plan.image.filter fun i => isPinned (some i)).getD (image version)
    initImage := (plan.initImage.filter fun i => isPinned (some i)).getD (initImage version)
    brokerVersion := version }

end BrokerFleet.Version
