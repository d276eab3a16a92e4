import BrokerFleet.Object.Key
import BrokerFleet.Text.Quoted

/-! # Replicas to talk to -/

namespace BrokerFleet

/-- Whether a replica serves its management endpoint in the clear or encrypted. -/
inductive Protocol where
  | http
  | https
  deriving DecidableEq, Repr

def Protocol.scheme : Protocol → String
  | http => "http"
  | https => "https"

def Protocol.render : Protocol → String
  | http => "Http"
  | https => "Https"

/-- What it takes to talk to a replica. -/
structure Credentials where
  user : String := ""
  password : String := ""
  protocol : Protocol := .http
  deriving DecidableEq, Repr

/-- The credentials for a reader, who is not shown the password. -/
def Credentials.render (c : Credentials) : String :=
  "Credentials \x7b user: " ++ Text.quote c.user ++ ", password: \"<redacted>\", protocol: " ++
    c.protocol.render ++ " \x7d"

/-- A replica that can be talked to. -/
structure ReplicaTarget where
  cluster : ObjectKey
  ordinal : Nat
  fqdn : String
  credentials : Credentials
  deriving DecidableEq, Repr

/-- A planned replica without a pod, and why. -/
structure UnavailableReplica where
  fqdn : String
  reason : String
  deriving DecidableEq, Repr

/-- The replicas of the selected clusters. -/
structure ResolvedTargets where
  targets : List ReplicaTarget := []
  unavailable : List UnavailableReplica := []
  deriving DecidableEq, Repr

namespace ResolvedTargets

def isEmpty (r : ResolvedTargets) : Bool := r.targets.isEmpty && r.unavailable.isEmpty

/-- The replicas of two selections, those of the first coming first. -/
def append (r s : ResolvedTargets) : ResolvedTargets :=
  ⟨r.targets ++ s.targets, r.unavailable ++ s.unavailable⟩

end ResolvedTargets

end BrokerFleet
