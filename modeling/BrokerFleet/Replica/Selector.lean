/-! # Which clusters an address applies to -/

namespace BrokerFleet

/-- Every cluster, or those named. -/
inductive ClusterSelector where
  | all
  | named (names : List String)
  deriving DecidableEq, Repr

namespace ClusterSelector

/-- No name, an empty name or a star stand for every cluster. -/
def ofNames (names : List String) : ClusterSelector :=
  if names = [] ∨ names.any (fun n => n == "" || n == "*") then all else named names

def appliesTo (s : ClusterSelector) (cluster : String) : Bool :=
  match s with
  | all => true
  | named names => names.contains cluster

end ClusterSelector

end BrokerFleet
