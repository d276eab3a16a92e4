import BrokerFleet.Failure
import BrokerFleet.Http.Target
import BrokerFleet.Object.Key
import BrokerFleet.Declaration.Address
import BrokerFleet.Text.FormUrl
import BrokerFleet.Program

/-! # Requests to the API server

Every object has a path of its own below the path of its collection. Writes name the operator as the
manager of the fields, and what the operator applies wins over other managers. Names are put into
the target of a request as they are, so some make another target and some make none. -/

namespace BrokerFleet

/-- What a request does. -/
inductive ApiMethod where
  | get
  | post
  | delete
  | patch
  deriving DecidableEq, Repr

def ApiMethod.render : ApiMethod → String
  | get => "GET"
  | post => "POST"
  | delete => "DELETE"
  | patch => "PATCH"

structure ApiRequest where
  method : ApiMethod
  target : Http.Target
  contentType : Option String := none
  body : Option Json := none

/-- An answer: a status of HTTP and a text. -/
structure ApiAnswer where
  status : Nat
  body : String
  deriving DecidableEq, Repr

/-- The requests to the API server with their answers. -/
def apiServer : Interface := ⟨ApiRequest, fun _ => ApiAnswer⟩

/-- A collection of objects: the version that it is served under, the kind of the objects and the
name of the collection. -/
structure ApiCollection where
  apiVersion : String
  kind : String
  plural : String
  deriving DecidableEq, Repr

namespace ApiCollection

def pods : ApiCollection := ⟨"v1", "Pod", "pods"⟩

def secrets : ApiCollection := ⟨"v1", "Secret", "secrets"⟩

def configMaps : ApiCollection := ⟨"v1", "ConfigMap", "configmaps"⟩

def services : ApiCollection := ⟨"v1", "Service", "services"⟩

def statefulSets : ApiCollection := ⟨"apps/v1", "StatefulSet", "statefulsets"⟩

def disruptionBudgets : ApiCollection :=
  ⟨"policy/v1", "PodDisruptionBudget", "poddisruptionbudgets"⟩

def clusters : ApiCollection := ⟨declarationVersion, "BrokerCluster", "brokerclusters"⟩

def addresses : ApiCollection := ⟨declarationVersion, "BrokerAddress", "brokeraddresses"⟩

/-- The path below which a version is served; only the oldest version belongs to no group. -/
def root (c : ApiCollection) : String :=
  if c.apiVersion = "v1" then "/api/v1" else "/apis/" ++ c.apiVersion

/-- The path of the collection in a namespace, or of all of it. -/
def path (c : ApiCollection) (ns : Option String) : String :=
  match ns with
  | some ns => c.root ++ "/namespaces/" ++ ns ++ "/" ++ c.plural
  | none => c.root ++ "/" ++ c.plural

def objectPath (c : ApiCollection) (key : ObjectKey) : String :=
  c.path (some key.ns) ++ "/" ++ key.name

end ApiCollection

namespace ApiRequest

/-- The term by which writes name the operator. -/
def managedFields : String := "fieldManager=broker-operator"

def jsonType : String := "application/json"

/-- A path with a query, each of whose terms follows an ampersand. -/
def targetText (path : String) (terms : List String) : String :=
  path ++ "?" ++ String.join (terms.map fun t => "&" ++ t)

/-- A request to the target that a text names, or why there is none. -/
def draft (method : ApiMethod) (target : String) (content : Option (String × Json)) :
    Except ApiFailure ApiRequest :=
  match Http.Target.ofText? target with
  | some target =>
    .ok { method, target, contentType := content.map (·.1), body := content.map (·.2) }
  | none => .error .untargeted

/-- A request about the object of a key, which needs a name. -/
def about (c : ApiCollection) (key : ObjectKey) (r : String → Except ApiFailure ApiRequest) :
    Except ApiFailure ApiRequest :=
  if key.name = "" then .error .unnamed else r (c.objectPath key)

def get (c : ApiCollection) (key : ObjectKey) : Except ApiFailure ApiRequest :=
  about c key fun path => draft .get path none

/-- Reads the objects of a collection, those that a selector selects if one is given. -/
def list (c : ApiCollection) (ns : Option String) (selector : Option String) :
    Except ApiFailure ApiRequest :=
  let terms := selector.map fun s => "labelSelector=" ++ Text.formEncode s
  draft .get (targetText (c.path ns) terms.toList) none

def create (c : ApiCollection) (ns : String) (object : Json) : Except ApiFailure ApiRequest :=
  draft .post (targetText (c.path (some ns)) [managedFields]) (some (jsonType, object))

def delete (c : ApiCollection) (key : ObjectKey) : Except ApiFailure ApiRequest :=
  about c key fun path => draft .delete (targetText path []) (some (jsonType, .obj []))

/-- Brings an object to the given form, whoever managed its fields before. -/
def apply (c : ApiCollection) (key : ObjectKey) (object : Json) : Except ApiFailure ApiRequest :=
  about c key fun path => draft .patch (targetText path [managedFields, "force=true"])
    (some ("application/apply-patch+yaml", object))

def mergeStatus (c : ApiCollection) (key : ObjectKey) (patch : Json) :
    Except ApiFailure ApiRequest :=
  about c key fun path => draft .patch (targetText (path ++ "/status") [managedFields])
    (some ("application/merge-patch+json", patch))

def jsonPatch (c : ApiCollection) (key : ObjectKey) (steps : List Json) :
    Except ApiFailure ApiRequest :=
  about c key fun path => draft .patch (targetText path [])
    (some ("application/json-patch+json", .arr steps))

def toJson (r : ApiRequest) : List (String × Json) :=
  [("method", .str r.method.render), ("path", .str r.target.path), ("query", .strs r.target.query),
    ("type", .optStr r.contentType), ("body", .orNull r.body)]

end ApiRequest

end BrokerFleet
