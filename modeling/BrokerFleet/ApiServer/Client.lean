import BrokerFleet.ApiServer.Answer
import BrokerFleet.Cluster.Status
import BrokerFleet.Object.Workload

/-! # Reading and writing objects through the API server

Each operation is one request, unless its target cannot be made. An object that does not exist is
absent for a read and no failure for a deletion. -/

namespace BrokerFleet

/-- A course of requests to the API server that may fail. -/
abbrev ApiTask (α : Type) := ExceptT Failure (Program apiServer) α

namespace ApiServer

/-- Sends a request, if there is one, and decodes the answer. -/
def send {α : Type} (r : Except ApiFailure ApiRequest) (d : Json.Decoder α) :
    Program apiServer (Except ApiFailure α) :=
  match r with
  | .error e => pure (.error e)
  | .ok r => do
    let answer ← Program.request (I := apiServer) r
    pure (answer.decode d)

/-- A request whose failures are those of the operator. -/
def task {α : Type} (p : Program apiServer (Except ApiFailure α)) : ApiTask α :=
  ExceptT.mk ((fun r => r.mapError Failure.api) <$> p)

/-- An outcome in which some failures say that there is nothing. -/
def orAbsent {α : Type} (isAbsence : ApiFailure → Bool) :
    Except ApiFailure α → Except ApiFailure (Option α)
  | .ok v => .ok (some v)
  | .error e => if isAbsence e then .ok none else .error e

/-- Reads an object, if it exists: the reason of a refusal says whether it does, not the code. -/
def find? {α : Type} (c : ApiCollection) (d : Json.Decoder α) (key : ObjectKey) :
    ApiTask (Option α) :=
  task (orAbsent (·.hasReason "NotFound") <$> send (ApiRequest.get c key) d)

def list {α : Type} (c : ApiCollection) (d : Json.Decoder α) (ns selector : Option String) :
    ApiTask (List α) :=
  task (send (ApiRequest.list c ns selector) (ApiAnswer.items d))

/-- An object as it was read: what is used of it, and its whole document in normal form. -/
structure Found (α : Type) where
  object : α
  document : Json

/-- Reads an object with its document. -/
def found {α : Type} (shape : Shape) (d : Json.Decoder α) : Json.Decoder (Found α) := fun v => do
  some ⟨← d v, ← shape.read? v⟩

def getCluster (key : ObjectKey) : ApiTask (Option Cluster) := find? .clusters Cluster.ofJson? key

/-- The clusters of a namespace, or of all of them. -/
def listClusters (ns : Option String) : ApiTask (List Cluster) :=
  list .clusters Cluster.ofJson? ns none

def getStatefulSet (key : ObjectKey) : ApiTask (Option (Found StatefulSet)) :=
  find? .statefulSets (found .statefulSet StatefulSet.ofJson?) key

def getPod (key : ObjectKey) : ApiTask (Option (Found Pod)) :=
  find? .pods (found .pod Pod.ofJson?) key

/-- The pods of a namespace that a selector selects. -/
def listPods (ns selector : String) : ApiTask (List (Found Pod)) :=
  list .pods (found .pod Pod.ofJson?) ns selector

def getSecret (key : ObjectKey) : ApiTask (Option Secret) := find? .secrets Secret.ofJson? key

def getConfigMap (key : ObjectKey) : ApiTask (Option ConfigMap) :=
  find? .configMaps ConfigMap.ofJson? key

/-- The config maps of a namespace that a selector selects. -/
def listConfigMaps (ns selector : String) : ApiTask (List ConfigMap) :=
  list .configMaps ConfigMap.ofJson? ns selector

def createConfigMap (ns : String) (map : ConfigMap) : ApiTask Unit := do
  let _ ← task (send (ApiRequest.create .configMaps ns map.toJson) ConfigMap.ofJson?)

/-- Deletes a config map; one that is absent is no failure, which the code of a refusal says. -/
def deleteConfigMap (key : ObjectKey) : ApiTask Unit := do
  let _ ← task (orAbsent (·.hasCode 404) <$>
    send (ApiRequest.delete .configMaps key) (ApiAnswer.deletion ConfigMap.ofJson?))

/-- The document that replaces a status, guarded by a resource version if one is given. -/
def statusPatch (resourceVersion : Option String) (status : ClusterStatus) : Json :=
  .present [("status", some status.toJson),
    ("metadata", resourceVersion.map fun v => .obj [("resourceVersion", .str v)])]

def patchClusterStatus (key : ObjectKey) (resourceVersion : Option String)
    (status : ClusterStatus) :
    ApiTask Unit := do
  let patch := statusPatch resourceVersion status
  let _ ← task (send (ApiRequest.mergeStatus .clusters key patch) Cluster.ofJson?)

end ApiServer

end BrokerFleet
