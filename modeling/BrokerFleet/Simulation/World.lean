import BrokerFleet.Address.Finalizer
import BrokerFleet.ApiServer.Request
import BrokerFleet.Simulation.Brokers
import BrokerFleet.Simulation.Objects
import BrokerFleet.Workload.Build

/-! # A world in memory

A handler of everything that the operator asks of its surroundings: objects in memory with faults to
come, scripted brokers, a clock that stands still, and a log of what was written and called. -/

namespace BrokerFleet.Simulation

/-- A failure to come: of one kind of request, about one name or any, so many times or always. -/
structure Fault where
  request : String
  name : Option String := none
  status : ApiStatus
  uses : Option Nat := none
  deriving DecidableEq, Repr

namespace Fault

/-- Whether a request about a name meets the fault. -/
def meets (f : Fault) (request name : String) : Bool :=
  f.request == request && f.uses != some 0 && f.name.all (· == name)

/-- The fault after one use. -/
def used (f : Fault) : Fault := { f with uses := f.uses.map (· - 1) }

/-- The status of the first fault that a request meets, and the faults after its use. -/
def take (request name : String) : List Fault → Option ApiStatus × List Fault
  | [] => (none, [])
  | f :: rest =>
    if f.meets request name then (some f.status, f.used :: rest)
    else ((take request name rest).1, f :: (take request name rest).2)

end Fault

/-- A status whose message is its reason. -/
def plainStatus (code : Nat) (reason : String) : ApiStatus := { message := reason, reason, code }

/-- What happened, for a reader of the log. -/
inductive Entry where
  | called (target : String) (call : Call)
  | created (key : ObjectKey) (map : ConfigMap)
  | deleted (key : ObjectKey)
  | patched (key : ObjectKey) (resourceVersion : Option String) (status : ClusterStatus)
  | provisioned (cluster : String) (set : StatefulSet)
  | requested (millis : Nat) (request : ApiRequest)

structure World where
  objects : Objects := {}
  faults : List Fault := []
  brokers : BrokerScript := Dict.empty
  /-- How the coming changes of finalizers come out; none is left: they go well. -/
  finalizerAnswers : List (Option ApiStatus) := []
  /-- How provisioning fails, if it does. -/
  provisionFailure : Option Failure := none
  /-- Whether anyone listens to triggers. -/
  listening : Bool := true
  /-- What the clock reads. -/
  now : String
  /-- The time since the start. -/
  millis : Nat := 0
  /-- The number of attempts to write a status. -/
  patches : Nat := 0
  log : List Entry := []
  triggers : List Trigger := []

namespace World

def note (w : World) (e : Entry) : World := { w with log := w.log ++ [e] }

/-- A failure of the store. -/
def refuse {α : Type} (s : ApiStatus) : Except Failure α := .error (.api (.refused s))

/-- An answer of the store, unless the request meets a fault. -/
def unlessFault {α : Type} (w : World) (request name : String)
    (answer : World → Except Failure α × World) : Except Failure α × World :=
  match Fault.take request name w.faults with
  | (some status, faults) => (refuse status, { w with faults })
  | (none, faults) => answer { w with faults }

/-- A reading of the objects, unless the request meets a fault. -/
def read {α : Type} (request name : String) (answer : Objects → α) (w : World) :
    Except Failure α × World :=
  w.unlessFault request name fun w => (.ok (answer w.objects), w)

def createConfigMap (ns : String) (map : ConfigMap) (w : World) : Except Failure Unit × World :=
  let name := map.metadata.anyName
  let key : ObjectKey := ⟨ns, name⟩
  (w.note (.created key map)).unlessFault "create_config_map" name fun w =>
    if w.objects.configMaps.contains key then (refuse (plainStatus 409 "AlreadyExists"), w)
    else
      let stored := { map with metadata := { map.metadata with ns := some ns } }
      (.ok (), { w with
        objects := { w.objects with configMaps := w.objects.configMaps.insert key stored } })

def deleteConfigMap (key : ObjectKey) (w : World) : Except Failure Unit × World :=
  (w.note (.deleted key)).unlessFault "delete_config_map" key.name fun w =>
    (.ok (), { w with objects := w.objects.erase .configMap key })

/-- Writes the status of a cluster, unless its resource version is another than the one given. -/
def patchClusterStatus (key : ObjectKey) (resourceVersion : Option String) (status : ClusterStatus)
    (w : World) : Except Failure Unit × World :=
  (w.note (.patched key resourceVersion status)).unlessFault "patch_cluster_status"
    key.name fun w =>
    let w := { w with patches := w.patches + 1 }
    match w.objects.clusters.get? key with
    | none => (refuse (plainStatus 404 "NotFound"), w)
    | some c =>
      if resourceVersion.isSome && resourceVersion != c.metadata.resourceVersion then
        (refuse (plainStatus 409 "Conflict"), w)
      else
        let version := "p" ++ toString w.patches
        let c := { c with
          metadata := { c.metadata with resourceVersion := some version }, status := some status }
        (.ok (), { w with
          objects := { w.objects with clusters := w.objects.clusters.insert key c } })

/-- Takes the next answer to a change of finalizers, if the request can be made. -/
def patchFinalizers (key : ObjectKey) (patch : FinalizerPatch) (w : World) :
    Except ApiFailure Unit × World :=
  match ApiRequest.jsonPatch .addresses key patch.steps with
  | .error e => (.error e, w)
  | .ok request =>
    let w := w.note (.requested w.millis request)
    match w.finalizerAnswers with
    | [] => (.ok (), w)
    | none :: rest => (.ok (), { w with finalizerAnswers := rest })
    | some status :: rest => (.error (.refused status), { w with finalizerAnswers := rest })

def call (target : ReplicaTarget) (c : Call) (w : World) : CallResult × World :=
  let (outcome, brokers) := BrokerScript.next w.brokers target.fqdn c.name
  (outcome.toResult c.name, { w.note (.called target.fqdn c) with brokers })

/-- Builds the workload of a cluster, and fails if that is what the world has in store. -/
def provision (c : Cluster) (handler : Option ConfigHandler) (w : World) :
    Except Failure Unit × World :=
  match WorkloadPlan.ofCluster c with
  | .error e => (.error e, w)
  | .ok plan =>
    let w := w.note (.provisioned c.metadata.anyName (plan.statefulSet handler))
    match w.provisionFailure with
    | some e => (.error e, w)
    | none => (.ok (), w)

/-- Notes a trigger if anyone listens. -/
def send (t : Trigger) (w : World) : Bool × World :=
  if w.listening then (true, { w with triggers := w.triggers ++ [t] }) else (false, w)

def answer : Handler surroundings World
  | .getCluster key => read "get_cluster" key.name (·.clusters.get? key)
  | .listClusters none => read "list_clusters" "" (·.clusters.values)
  | .listClusters (some ns) => read "list_clusters" "" fun o => inNamespace ns o.clusters
  | .getStatefulSet key => read "get_statefulset" key.name (·.statefulSets.get? key)
  | .getPod key => read "get_pod" key.name (·.pods.get? key)
  | .listPods ns selector => read "list_pods" "" fun o =>
    (inNamespace ns o.pods).filter fun p => selects selector p.metadata.labelSet
  | .getSecret key => read "get_secret" key.name (·.secrets.get? key)
  | .getConfigMap key => read "get_config_map" key.name (·.configMaps.get? key)
  | .listConfigMaps ns selector => read "list_config_maps" "" fun o =>
    (inNamespace ns o.configMaps).filter fun m => selects selector m.metadata.labelSet
  | .createConfigMap ns map => createConfigMap ns map
  | .deleteConfigMap key => deleteConfigMap key
  | .patchClusterStatus key resourceVersion status => patchClusterStatus key resourceVersion status
  | .patchFinalizers key patch => patchFinalizers key patch
  | .call target c => call target c
  | .provision c handler => provision c handler
  | .clock => fun w => (w.now, w)
  | .send t => send t

end World

end BrokerFleet.Simulation
