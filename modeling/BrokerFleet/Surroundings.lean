import BrokerFleet.Cluster.Status
import BrokerFleet.Object.Workload
import BrokerFleet.Management.Call
import BrokerFleet.Replica.Target
import BrokerFleet.Handler.Basic
import BrokerFleet.Program

/-! # What surrounds the operator

The operator reads and writes objects, calls brokers, has clusters provisioned, reads the clock and
asks for passes. Each of these is a request; everything else in this library is pure. -/

namespace BrokerFleet

/-- A pass that someone asks for. -/
inductive Trigger where
  | cluster (ns : Option String) (name : String)
  | address (key : ObjectKey)
  deriving DecidableEq, Repr

/-- A change of the finalizers of an address, as one test and one operation. -/
structure FinalizerPatch where
  testPath : String
  testValue : Json
  path : String
  /-- The value to add, or nothing to remove what stands at the path. -/
  value : Option Json

/-- What the operator asks of its surroundings. -/
inductive Request where
  | getCluster (key : ObjectKey)
  | listClusters (ns : Option String)
  | getStatefulSet (key : ObjectKey)
  | getPod (key : ObjectKey)
  | listPods (ns selector : String)
  | getSecret (key : ObjectKey)
  | getConfigMap (key : ObjectKey)
  | listConfigMaps (ns selector : String)
  | createConfigMap (ns : String) (map : ConfigMap)
  | deleteConfigMap (key : ObjectKey)
  | patchClusterStatus (key : ObjectKey) (resourceVersion : Option String) (status : ClusterStatus)
  | patchFinalizers (key : ObjectKey) (patch : FinalizerPatch)
  | call (target : ReplicaTarget) (call : Call)
  | provision (cluster : Cluster) (handler : Option ConfigHandler)
  | clock
  | send (trigger : Trigger)

/-- The answers: reads, writes and provisioning may fail, calls come to their results, the clock
answers with the time, and a trigger with whether anyone listens. -/
def Request.Answer : Request → Type
  | getCluster _ => Except Failure (Option Cluster)
  | listClusters _ => Except Failure (List Cluster)
  | getStatefulSet _ => Except Failure (Option StatefulSet)
  | getPod _ => Except Failure (Option Pod)
  | listPods _ _ => Except Failure (List Pod)
  | getSecret _ => Except Failure (Option Secret)
  | getConfigMap _ => Except Failure (Option ConfigMap)
  | listConfigMaps _ _ => Except Failure (List ConfigMap)
  | createConfigMap _ _ => Except Failure Unit
  | deleteConfigMap _ => Except Failure Unit
  | patchClusterStatus _ _ _ => Except Failure Unit
  | patchFinalizers _ _ => Except ApiFailure Unit
  | call _ _ => CallResult
  | provision _ _ => Except Failure Unit
  | clock => String
  | send _ => Bool

/-- The requests of the operator with their answers. -/
def surroundings : Interface := ⟨Request, Request.Answer⟩

/-- A course of requests. -/
abbrev Course (α : Type) := Program surroundings α

/-- A course of requests that may fail. -/
abbrev Task (α : Type) := ExceptT Failure (Program surroundings) α

namespace Task

/-- A course as a task that does not fail. -/
def lift {α : Type} (c : Course α) : Task α := ExceptT.mk ((fun a => .ok a) <$> c)

/-- The outcome of a task, whether it failed or not. -/
def attempt {α : Type} (t : Task α) : Task (Except Failure α) := lift t.run

def getCluster (key : ObjectKey) : Task (Option Cluster) :=
  Program.request (I := surroundings) (.getCluster key)

/-- The clusters of a namespace, or of all of them. -/
def listClusters (ns : Option String) : Task (List Cluster) :=
  Program.request (I := surroundings) (.listClusters ns)

def getStatefulSet (key : ObjectKey) : Task (Option StatefulSet) :=
  Program.request (I := surroundings) (.getStatefulSet key)

def getPod (key : ObjectKey) : Task (Option Pod) :=
  Program.request (I := surroundings) (.getPod key)

/-- The pods of a namespace that a selector selects. -/
def listPods (ns selector : String) : Task (List Pod) :=
  Program.request (I := surroundings) (.listPods ns selector)

def getSecret (key : ObjectKey) : Task (Option Secret) :=
  Program.request (I := surroundings) (.getSecret key)

def getConfigMap (key : ObjectKey) : Task (Option ConfigMap) :=
  Program.request (I := surroundings) (.getConfigMap key)

/-- The config maps of a namespace that a selector selects. -/
def listConfigMaps (ns selector : String) : Task (List ConfigMap) :=
  Program.request (I := surroundings) (.listConfigMaps ns selector)

def createConfigMap (ns : String) (map : ConfigMap) : Task Unit :=
  Program.request (I := surroundings) (.createConfigMap ns map)

/-- Deletes a config map; one that is absent is no failure. -/
def deleteConfigMap (key : ObjectKey) : Task Unit :=
  Program.request (I := surroundings) (.deleteConfigMap key)

/-- Replaces the status of a cluster, guarded by a resource version if one is given. -/
def patchClusterStatus (key : ObjectKey) (resourceVersion : Option String)
    (status : ClusterStatus) :
    Task Unit :=
  Program.request (I := surroundings) (.patchClusterStatus key resourceVersion status)

def provision (cluster : Cluster) (handler : Option ConfigHandler) : Task Unit :=
  Program.request (I := surroundings) (.provision cluster handler)

end Task

def callReplica (target : ReplicaTarget) (call : Call) : Course CallResult :=
  Program.request (I := surroundings) (.call target call)

/-- Asks for a pass; the answer is whether anyone listens. -/
def sendTrigger (trigger : Trigger) : Course Bool :=
  Program.request (I := surroundings) (.send trigger)

def patchFinalizers (key : ObjectKey) (patch : FinalizerPatch) : Course (Except ApiFailure Unit) :=
  Program.request (I := surroundings) (.patchFinalizers key patch)

/-- The time on the clock. -/
def readClock : Course String := Program.request (I := surroundings) .clock

end BrokerFleet
