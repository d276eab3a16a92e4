import BrokerFleet.Address.Sync
import BrokerFleet.Address.Record
import BrokerFleet.Config
import BrokerFleet.Json.Writer

/-! # The life of an address declaration

Applying a declaration brings it to its replicas, unless its version is the one applied last.
Deleting it removes it from them, where that is asked for. When a pod becomes ready in a new
incarnation, every deployment on its cluster has to be applied again. -/

namespace BrokerFleet

/-- The last known deployment of a declaration. -/
structure Deployment where
  spec : AddressSpec
  selector : ClusterSelector
  /-- The version applied last, or nothing when it has to be applied. -/
  checksum : Option String
  deriving DecidableEq

/-- What the address controller remembers: the deployments, and the incarnation in which each pod
was last seen ready. -/
structure AddressMemory where
  deployments : Dict ObjectKey Deployment := Dict.empty
  readyPods : Dict ObjectKey String := Dict.empty
  deriving DecidableEq

/-- The stateful set that a pod belongs to, its ordinal there, and its labels. -/
structure PodOwner where
  statefulSet : String
  ordinal : Nat
  labels : Dict String String
  deriving DecidableEq

/-- A task that reads and changes what the address controller remembers; it keeps what it changed
before a failure. -/
abbrev Keeping (α : Type) := ExceptT Failure (StateT AddressMemory (Program surroundings)) α

namespace AddressLifecycle

def recordKind : String := "address"

/-- A task that leaves the memory alone. -/
def ofTask {α : Type} (t : Task α) : Keeping α := ExceptT.mk (StateT.lift t.run)

def track (key : ObjectKey) (spec : AddressSpec) (checksum : Option String) : Keeping Unit :=
  modify fun m => { m with
    deployments := m.deployments.insert key
      { spec, selector := .ofNames spec.applyToClusterNames, checksum } }

def versionOf (a : Address) : String := a.metadata.resourceVersion.getD ""

def recordOf (a : Address) : Record where
  owner := a.metadata.key
  kind := recordKind
  snapshot := a.toJson.render
  checksum := versionOf a
  labels := addressLabels a.metadata.key.name

/-! ## Applying -/

/-- Whether the version of a declaration is the one applied last. -/
def isApplied (m : AddressMemory) (a : Address) : Bool :=
  (m.deployments.get? a.metadata.key).any fun d => d.checksum == some (versionOf a)

/-- Whether a declaration that is not remembered has a record of its version; a record that cannot
be read is none. -/
def matchesRecord (m : AddressMemory) (a : Address) : Keeping Bool := do
  if m.deployments.contains a.metadata.key then pure false
  else
    let key := a.metadata.key
    let labels := addressLabels key.name
    let unchanged ← ofTask (Record.isUnchanged key recordKind labels (versionOf a)).attempt
    pure (match unchanged with
      | .ok same => same
      | .error _ => false)

/-- The first step of bringing a declaration to its replicas: it is remembered as not applied, so
that a replica that comes back meanwhile asks for it again. -/
def begin (a : Address) : Keeping Unit := track a.metadata.key a.spec none

/-- The second step: the calls to the replicas. -/
def synchronize (config : Config) (a : Address) : Keeping Unit :=
  ofTask (AddressSync.ensure config.clusterDomain a.metadata.key.ns a.spec)

/-- The last step: the version is remembered as applied. -/
def finish (a : Address) : Keeping Unit := track a.metadata.key a.spec (some (versionOf a))

/-- Keeps a record of an applied declaration; a failure to do so is passed over. -/
def keepRecord (a : Address) : Keeping Unit := do
  let _ ← ofTask (recordOf a).store.attempt
  pure ()

/-- Brings a declaration to its replicas, unless its version was applied last. -/
def apply (config : Config) (a : Address) : Keeping Action := do
  let violations := a.spec.violations
  if violations ≠ [] then throw (.invalidConfig (Violation.renderAll violations))
  let again := Action.requeueAfter config.resyncMillis
  let m ← get
  if isApplied m a then pure again
  else if ← matchesRecord m a then
    finish a
    pure again
  else
    begin a
    synchronize config a
    finish a
    keepRecord a
    pure again

/-! ## Cleaning up -/

/-- Removes a declaration from its replicas where that is asked for, and forgets it. -/
def cleanup (config : Config) (a : Address) : Keeping Action := do
  let key := a.metadata.key
  if a.spec.removeFromBrokerOnDelete then
    ofTask (AddressSync.remove config.clusterDomain key.ns a.spec)
  let _ ← ofTask (Record.remove key recordKind).attempt
  modify fun m => { m with deployments := m.deployments.erase key }
  pure .awaitChange

/-! ## Observing pods -/

/-- The stateful set that controls a pod, else the one that its cluster label leads to. -/
def statefulSetOf? (pod : Pod) : Option String :=
  let owners := pod.metadata.ownerReferences.getD []
  ((owners.find? fun o => o.kind == "StatefulSet" && o.controller == some true).map (·.name)).or
    ((pod.metadata.label? clusterLabel).map statefulSetName)

def podOwner (key : ObjectKey) : Course (Option PodOwner) := do
  match ← (Task.getPod key).run with
  | .error _ | .ok none => pure none
  | .ok (some pod) => pure do
    let statefulSet ← statefulSetOf? pod
    let ordinal ← podOrdinal? key.name statefulSet
    some { statefulSet, ordinal, labels := pod.metadata.labelSet }

/-- Whether a deployment applies to a cluster of a namespace. -/
def targets (ns cluster : String) (key : ObjectKey) (d : Deployment) : Bool :=
  key.ns == ns && d.selector.appliesTo cluster

/-- Forgets that deployments were applied and asks for each of them, in order, until no one listens;
the number of those asked for. -/
def invalidate (ns cluster : String) :
    List (ObjectKey × Deployment) → StateT AddressMemory (Program surroundings) Nat
  | [] => pure 0
  | (key, d) :: rest => do
    if targets ns cluster key d then
      modify fun m => { m with deployments := m.deployments.insert key { d with checksum := none } }
      let heard ← StateT.lift (sendTrigger (.address key))
      if heard then
        let more ← invalidate ns cluster rest
        pure (more + 1)
      else pure 0
    else invalidate ns cluster rest

/-- Takes note of an observed pod; the number of deployments asked for. -/
def onPod (pod : Pod) : StateT AddressMemory (Program surroundings) Nat := do
  let key := pod.metadata.key
  match pod.isReady, pod.metadata.uid with
  | true, some uid =>
    let m ← get
    if m.readyPods.get? key = some uid then pure 0
    else
      set { m with readyPods := m.readyPods.insert key uid }
      match ← StateT.lift (podOwner key) with
      | none => pure 0
      | some owner =>
        invalidate key.ns (clusterOfStatefulSet owner.statefulSet) (← get).deployments.entries
  | _, _ => pure 0

end AddressLifecycle

end BrokerFleet
