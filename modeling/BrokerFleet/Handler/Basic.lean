import BrokerFleet.Object.Core

/-! # Config handlers

A handler contributes init container arguments to the clusters that it applies to. -/

namespace BrokerFleet

/-- What contributes configuration to clusters. -/
structure ConfigHandler where
  appliesTo : ObjectKey → Bool
  /-- The arguments, from the init containers, the directory to write to, the broker version and the
  profile. -/
  arguments : List Container → String → String → String → List String

end BrokerFleet
