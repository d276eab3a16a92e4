import BrokerFleet.Object.Metadata
import BrokerFleet.Object.Shape.Pod
import BrokerFleet.Text.Utf8

/-! # Pods, secrets, config maps and their parts

The parts of the objects that the operator reads or writes; secrets and config maps are whole. Every
field is optional when read, and absent fields are not written. -/

namespace BrokerFleet

open Json

/-- A port or a threshold: a number or a text. -/
inductive IntOrString where
  | int (n : Int)
  | str (s : String)
  deriving DecidableEq, Repr

structure SecretKeyRef where
  name : String
  key : String
  isOptional : Option Bool := none
  deriving DecidableEq, Repr

/-- An environment variable: a literal value, or a value taken from a secret. -/
structure EnvVar where
  name : String
  value : Option String := none
  secretKeyRef : Option SecretKeyRef := none
  deriving DecidableEq, Repr

structure VolumeMount where
  name : String
  mountPath : String
  readOnly : Option Bool := none
  deriving DecidableEq, Repr

structure ContainerPort where
  name : String
  port : Nat
  deriving DecidableEq, Repr

/-- A readiness probe that opens a port. -/
structure PortProbe where
  port : Nat
  initialDelaySeconds : Nat
  periodSeconds : Nat
  deriving DecidableEq, Repr

structure Container where
  name : String
  image : Option String := none
  args : Option (List String) := none
  env : Option (List EnvVar) := none
  ports : Option (List ContainerPort) := none
  readinessProbe : Option PortProbe := none
  volumeMounts : Option (List VolumeMount) := none
  deriving DecidableEq, Repr

/-- Where the files of a volume come from. -/
inductive VolumeSource where
  | emptyDir
  | configMap (name : String)
  | secret (name : String)
  deriving DecidableEq, Repr

structure Volume where
  name : String
  source : VolumeSource
  deriving DecidableEq, Repr

structure PodSpec where
  initContainers : Option (List Container) := none
  containers : List Container
  volumes : Option (List Volume) := none
  deriving DecidableEq, Repr

structure PodCondition where
  type : String
  status : String
  deriving DecidableEq, Repr

structure PodReport where
  phase : Option String
  conditions : Option (List PodCondition)
  deriving DecidableEq, Repr

structure Pod where
  metadata : Metadata := {}
  spec : Option PodSpec := none
  report : Option PodReport := none

/-- A secret: values held as bytes, and values given as text. -/
structure Secret where
  metadata : Metadata := {}
  data : Option (Dict String (List UInt8)) := none
  stringData : Option (Dict String String) := none
  immutable : Option Bool := none
  type : Option String := none

structure ConfigMap where
  metadata : Metadata := {}
  data : Option (Dict String String) := none
  binaryData : Option (Dict String (List UInt8)) := none
  immutable : Option Bool := none

/-! ## Written forms -/

namespace IntOrString

def toJson : IntOrString → Json
  | int n => .int n
  | str s => .str s

end IntOrString

namespace EnvVar

def toJson (e : EnvVar) : Json :=
  present [("name", some (str e.name)), ("value", e.value.map str),
    ("valueFrom", e.secretKeyRef.map fun r =>
      obj [("secretKeyRef", present [("key", some (str r.key)), ("name", some (str r.name)),
        ("optional", r.isOptional.map bool)])])]

def secretRef? (v : Json) : Option SecretKeyRef := do
  let _ ← asObj v
  some {
    name := ← lenient asStr "" "name" v
    key := ← lenient asStr "" "key" v
    isOptional := ← optional asBool "optional" v }

def ofJson? (v : Json) : Option EnvVar := do
  let _ ← asObj v
  let source ← optional (fun w => (asObj w).map fun _ => w) "valueFrom" v
  some {
    name := ← lenient asStr "" "name" v
    value := ← optional asStr "value" v
    secretKeyRef := ← match source with
      | none => some none
      | some w => optional secretRef? "secretKeyRef" w }

end EnvVar

namespace Container

def mountJson (m : VolumeMount) : Json :=
  present [("mountPath", some (str m.mountPath)), ("name", some (str m.name)),
    ("readOnly", m.readOnly.map bool)]

def portJson (p : ContainerPort) : Json :=
  obj [("containerPort", int p.port), ("name", str p.name), ("protocol", str "TCP")]

def probeJson (p : PortProbe) : Json :=
  obj [("initialDelaySeconds", int p.initialDelaySeconds), ("periodSeconds", int p.periodSeconds),
    ("tcpSocket", obj [("port", int p.port)])]

def toJson (c : Container) : Json :=
  present [("args", c.args.map strs), ("env", c.env.map fun es => arr (es.map EnvVar.toJson)),
    ("image", c.image.map str), ("name", some (str c.name)),
    ("ports", c.ports.map fun ps => arr (ps.map portJson)),
    ("readinessProbe", c.readinessProbe.map probeJson),
    ("volumeMounts", c.volumeMounts.map fun ms => arr (ms.map mountJson))]

/-- Reads a container: its name, image, arguments and environment. -/
def ofJson? (v : Json) : Option Container := do
  let _ ← asObj v
  some {
    name := ← lenient asStr "" "name" v
    image := ← optional asStr "image" v
    args := ← optional (listOf asStr) "args" v
    env := ← optional (listOf EnvVar.ofJson?) "env" v }

end Container

def Volume.toJson (v : Volume) : Json :=
  match v.source with
  | .emptyDir => obj [("emptyDir", obj []), ("name", str v.name)]
  | .configMap name => obj [("configMap", obj [("name", str name)]), ("name", str v.name)]
  | .secret name => obj [("name", str v.name), ("secret", obj [("secretName", str name)])]

namespace PodSpec

def toJson (s : PodSpec) : Json :=
  present [("containers", some (arr (s.containers.map Container.toJson))),
    ("initContainers", s.initContainers.map fun cs => arr (cs.map Container.toJson)),
    ("volumes", s.volumes.map fun vs => arr (vs.map Volume.toJson))]

def ofJson? (v : Json) : Option PodSpec := do
  let _ ← asObj v
  some {
    initContainers := ← optional (listOf Container.ofJson?) "initContainers" v
    containers := ← lenient (listOf Container.ofJson?) [] "containers" v }

end PodSpec

namespace Pod

def condition? (v : Json) : Option PodCondition := do
  let _ ← asObj v
  some { type := ← lenient asStr "" "type" v, status := ← lenient asStr "" "status" v }

def report? (v : Json) : Option PodReport := do
  let _ ← asObj v
  some {
    phase := ← optional asStr "phase" v
    conditions := ← optional (listOf condition?) "conditions" v }

def ofJson? (v : Json) : Option Pod := do
  let v ← Shape.pod.read? v
  some {
    metadata := ← lenient Metadata.ofJson? {} "metadata" v
    spec := ← optional PodSpec.ofJson? "spec" v
    report := ← optional report? "status" v }

def isReady (p : Pod) : Bool :=
  match p.report.bind (·.conditions) with
  | none => false
  | some cs => cs.any fun c => c.type == "Ready" && c.status == "True"

end Pod

/-- Bytes in base64. -/
def bytesOf : Decoder (List UInt8) := fun v => (asStr v).bind fun s => Text.Base64.decode? s.toList

def bytesJson (d : Dict String (List UInt8)) : Json := ofDict d fun b => str (Text.Base64.render b)

namespace Secret

def ofJson? (v : Json) : Option Secret := do
  let v ← Shape.secret.read? v
  some {
    metadata := ← lenient Metadata.ofJson? {} "metadata" v
    data := ← optional (dictOf bytesOf) "data" v
    stringData := ← optional texts "stringData" v
    immutable := ← optional asBool "immutable" v
    type := ← optional asStr "type" v }

def toJson (s : Secret) : Json :=
  present [("apiVersion", some (str "v1")), ("data", s.data.map bytesJson),
    ("immutable", s.immutable.map bool), ("kind", some (str "Secret")),
    ("metadata", some s.metadata.toJson), ("stringData", s.stringData.map ofTexts),
    ("type", s.type.map str)]

/-- The text under a key: decoded bytes first, then given text. -/
def value? (s : Secret) (key : String) : Option String :=
  ((s.data.bind (·.get? key)).map Text.decodeUtf8).or (s.stringData.bind (·.get? key))

def hasKey (s : Secret) (key : String) : Bool :=
  (s.data.bind (·.get? key)).isSome || (s.stringData.bind (·.get? key)).isSome

/-- A secret has a key if its bytes or its given texts have it. -/
theorem hasKey_iff {s : Secret} {key : String} : s.hasKey key = true ↔
    (∃ d, s.data = some d ∧ d.contains key = true) ∨
      ∃ d, s.stringData = some d ∧ d.contains key = true := by
  cases hdata : s.data <;> cases htexts : s.stringData <;>
    simp [hasKey, hdata, htexts, Dict.contains]

end Secret

namespace ConfigMap

def ofJson? (v : Json) : Option ConfigMap := do
  let v ← Shape.configMap.read? v
  some {
    metadata := ← lenient Metadata.ofJson? {} "metadata" v
    data := ← optional texts "data" v
    binaryData := ← optional (dictOf bytesOf) "binaryData" v
    immutable := ← optional asBool "immutable" v }

def toJson (c : ConfigMap) : Json :=
  present [("apiVersion", some (str "v1")), ("binaryData", c.binaryData.map bytesJson),
    ("data", c.data.map ofTexts), ("immutable", c.immutable.map bool),
    ("kind", some (str "ConfigMap")), ("metadata", some c.metadata.toJson)]

def hasKey (c : ConfigMap) (key : String) : Bool := (c.data.bind (·.get? key)).isSome

theorem hasKey_iff {c : ConfigMap} {key : String} :
    c.hasKey key = true ↔ ∃ d, c.data = some d ∧ d.contains key = true := by
  cases hdata : c.data <;> simp [hasKey, hdata, Dict.contains]

end ConfigMap

end BrokerFleet
