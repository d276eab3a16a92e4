import BrokerFleet.Replica.Resolve
import BrokerFleet.Management.Queue

/-! # Bringing an address to the replicas

An address is created on every replica first; a declared queue follows on those replicas that have
the address. A queue is deleted everywhere despite failures, and its address then goes only where
nothing else is bound to it. A bare address is deleted replica by replica up to the first failure.
What is there already, or gone already, is no failure. -/

namespace BrokerFleet.AddressSync

/-- A step on a replica: done, or a failure to report. -/
abbrev Step := ReplicaTarget → Course (Option CallFailure)

/-- How a step came out on each replica. -/
abbrev Outcomes := List (ReplicaTarget × Option CallFailure)

/-- The failure of a result, unless the broker only says that nothing was left to do. -/
def failureOf (harmless : BrokerCode) : CallResult → Option CallFailure
  | .ok _ => none
  | .error e => if e.hasCode harmless then none else some e

def runStep (step : Step) (targets : List ReplicaTarget) : Course Outcomes :=
  Program.each (fun t => do pure (t, ← step t)) targets

/-- The replicas on which a step is done. -/
def succeeded (outcomes : Outcomes) : List ReplicaTarget :=
  outcomes.filterMap fun o => if o.2.isNone then some o.1 else none

/-- Adds a failed step at a replica. -/
def addFailure (f : BatchFailure) (o : ReplicaTarget × Option CallFailure) : BatchFailure :=
  match o.2 with
  | none => f
  | some e =>
    if e.isTransient then f.addTransient o.1.fqdn e.message else f.add o.1.fqdn e.message

/-- A failure with the replicas that are unavailable. -/
def startFailure (cause : String) (unavailable : List UnavailableReplica) : BatchFailure :=
  unavailable.foldl (fun f r => f.addTransient r.fqdn r.reason) { cause }

/-- A failure, unless no target failed. -/
def conclude (f : BatchFailure) : Task Unit := if f.isEmpty then pure () else throw (.batch f)

/-- The replicas that a declaration is meant for. -/
def replicas (domain ns : String) (spec : AddressSpec) : Task ResolvedTargets :=
  ResolvedTargets.resolve domain ns (.ofNames spec.applyToClusterNames)

/-! ## Creating -/

/-- The routing that an address is created with. -/
def routing (spec : AddressSpec) : String := spec.routingType.getD QueuePayload.defaultRouting

/-- Creates the address, or finds it there. -/
def ensureAddress (spec : AddressSpec) : Step := fun t => do
  let result ← callReplica t (.createAddress spec.addressName (routing spec))
  pure (failureOf .addressAlreadyExists result)

/-- Creates the queue; one that is there is updated. -/
def ensureQueue (payload : QueuePayload) : Step := fun t => do
  match ← callReplica t (.createQueue payload.config payload.ignoreIfExists) with
  | .ok _ => pure none
  | .error e =>
    if e.hasCode .queueAlreadyExists then
      match ← callReplica t (.updateQueue payload.config) with
      | .ok _ => pure none
      | .error e => pure (some e)
    else pure (some e)

/-- Creates the address and then the queue on the replicas, and reports the failures. -/
def ensureOn (spec : AddressSpec) (found : ResolvedTargets) : Course BatchFailure := do
  let addressed ← runStep (ensureAddress spec) found.targets
  let queued ← match QueuePayload.ofSpec? spec with
    | some payload => runStep (ensureQueue payload) (succeeded addressed)
    | none => pure []
  pure ((addressed ++ queued).foldl addFailure
    (startFailure ("apply address " ++ spec.addressName) found.unavailable))

/-- Makes the address, and the queue, exist on every replica. -/
def ensure (domain ns : String) (spec : AddressSpec) : Task Unit := do
  let found ← replicas domain ns spec
  if found.isEmpty then
    throw (.noManagementClient ("no broker replicas found for address " ++ spec.addressName))
  conclude (← Task.lift (ensureOn spec found))

/-! ## Removing -/

def deleteQueue (queue : String) : Step := fun t => do
  let result ← callReplica t (.deleteQueue queue)
  pure (failureOf .queueDoesNotExist result)

/-- Deletes the address from a replica where nothing is bound to it; failures are passed over. -/
def deleteUnbound (address : String) (t : ReplicaTarget) : Course Unit := do
  match ← callReplica t (.listBindings address) with
  | .ok bindings =>
    if hasBindings bindings then pure ()
    else do
      let _ ← callReplica t (.deleteAddress address)
      pure ()
  | .error _ => pure ()

/-- Deletes the queue from every replica, and the address from those where nothing is left. -/
def removeQueue (spec : AddressSpec) (queue : String) (found : ResolvedTargets) : Task Unit := do
  let outcomes ← Task.lift (runStep (deleteQueue queue) found.targets)
  let _ ← Task.lift (Program.each (deleteUnbound spec.addressName) (succeeded outcomes))
  conclude (outcomes.foldl addFailure (startFailure ("delete queue " ++ queue) found.unavailable))

/-- Deletes an address from replica after replica, up to the first failure. -/
def deleteAddress (address : String) : List ReplicaTarget → Task Unit
  | [] => pure ()
  | t :: rest => do
    let result ← Task.lift (callReplica t (.deleteAddress address))
    match failureOf .addressDoesNotExist result with
    | none => deleteAddress address rest
    | some e => throw e.toFailure

/-- Deletes a bare address, provided that every replica is available. -/
def removeAddress (spec : AddressSpec) (found : ResolvedTargets) : Task Unit :=
  match found.unavailable with
  | r :: _ => throw (.noManagementClient (r.fqdn ++ ": " ++ r.reason))
  | [] => deleteAddress spec.addressName found.targets

/-- Removes the queue, or the bare address, from every replica. -/
def remove (domain ns : String) (spec : AddressSpec) : Task Unit := do
  let found ← replicas domain ns spec
  if found.isEmpty then pure ()
  else match spec.queue? with
    | some queue => removeQueue spec queue found
    | none => removeAddress spec found

end BrokerFleet.AddressSync
