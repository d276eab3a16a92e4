import BrokerFleet.Cluster.Validity
import BrokerFleet.Cluster.Projection
import BrokerFleet.Handler.Registry

/-! # One pass over a cluster

A pass validates the declaration, provisions the workload if it is valid, projects the status and
commits it. A failure of provisioning is stated in the committed status before it ends the pass. -/

namespace BrokerFleet

inductive Stage where
  | validating
  | processing
  | projecting
  | committing
  | done
  | requeue
  deriving DecidableEq, Repr

namespace Stage

def all : List Stage := [validating, processing, projecting, committing, done, requeue]

def render : Stage → String
  | validating => "Validating"
  | processing => "Processing"
  | projecting => "StatusProjecting"
  | committing => "Committing"
  | done => "Done"
  | requeue => "Requeue"

end Stage

namespace ClusterPass

/-- Writes a status unless it says what is stored already. A conflict means that a newer declaration
is on its way, and the status is dropped. -/
def commit (key : ObjectKey) (status : ClusterStatus) : Task Unit := do
  match ← Task.getCluster key with
  | none => pure ()
  | some current =>
    if current.status.any fun s => s.same status then pure ()
    else
      let written ← (Task.patchClusterStatus key current.metadata.resourceVersion status).attempt
      match written with
      | .ok _ => pure ()
      | .error e => if e.isConflict then pure () else throw e

/-- Provisions a valid cluster, with the handler that applies to it. -/
def process (registry : HandlerRegistry) (key : ObjectKey) (c : Cluster) (v : Validation) :
    Task (Except Failure Unit) :=
  if v.isValid then (Task.provision c (registry.lookup key)).attempt else pure (.ok ())

/-- What follows a pass whose provisioning went well: mounted objects, a check to repeat and a
status that has not settled call for another pass. -/
def next (config : Config) (c : Cluster) (v : Validation) (status : ClusterStatus) : Action :=
  if ! c.spec.deploymentPlan.extraMounts.isEmpty || v.retry || ! status.isQuiescent then
    .requeueAfter config.resyncMillis
  else .awaitChange

/-- One pass over the cluster of a key. -/
def run (config : Config) (registry : HandlerRegistry) (key : ObjectKey) : Task Action := do
  match ← Task.getCluster key with
  | none => pure .awaitChange
  | some c =>
    let v ← Validity.validate config c
    let provisioned ← process registry key c v
    let observed ← Projection.observe c
    let now ← Task.lift readClock
    let error := match provisioned with
      | .ok _ => none
      | .error e => some e.message
    let status := Projection.project now c c.status v.condition error observed
    commit key status
    match provisioned with
    | .error e => throw e
    | .ok _ => pure (next config c v status)

end ClusterPass

end BrokerFleet
