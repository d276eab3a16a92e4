import BrokerFleet.Cluster.Status
import BrokerFleet.Declaration.Address

/-! # The schemas of the declared kinds

The documents that make the declared kinds known to the API server: the names of a kind, the columns
it is listed with, its scale, and the schema of its objects. A default stands in the schema as the
written form of the default value. -/

namespace BrokerFleet

open Json

/-- What is demanded of a value, as the facets of its schema. -/
structure Schema where
  facets : List (String × Json)

namespace Schema

def toJson (s : Schema) : Json := obj s.facets

def withFacet (s : Schema) (name : String) (value : Json) : Schema := ⟨s.facets ++ [(name, value)]⟩

def ofType (type : String) : Schema := ⟨[("type", str type)]⟩

def text : Schema := ofType "string"

def flag : Schema := ofType "boolean"

/-- Integers of 32 bits. -/
def word : Schema := (ofType "integer").withFacet "format" (str "int32")

/-- Integers of 64 bits. -/
def long : Schema := (ofType "integer").withFacet "format" (str "int64")

def listOf (items : Schema) : Schema := (ofType "array").withFacet "items" items.toJson

def dictOf (values : Schema) : Schema :=
  (ofType "object").withFacet "additionalProperties" values.toJson

def record (fields : List (String × Schema)) : Schema :=
  (ofType "object").withFacet "properties" (obj (fields.map fun f => (f.1, f.2.toJson)))

/-- Objects that have to have some of their fields. -/
def requiring (s : Schema) (fields : List String) : Schema := s.withFacet "required" (strs fields)

def nullable (s : Schema) : Schema := s.withFacet "nullable" (bool true)

def defaulting (s : Schema) (value : Json) : Schema := s.withFacet "default" value

def described (s : Schema) (text : String) : Schema := s.withFacet "description" (str text)

def atLeast (s : Schema) (bound : String) : Schema := s.withFacet "minimum" (literal bound)

def atMost (s : Schema) (bound : String) : Schema := s.withFacet "maximum" (literal bound)

def optText : Schema := text.nullable

/-- Lists of texts, without any by default. -/
def texts : Schema := (listOf text).defaulting (arr [])

/-- Texts that are empty by default. -/
def plainText : Schema := text.defaulting (str "")

/-! ## Clusters -/

def extraMounts : Schema := record [("configMaps", texts), ("secrets", texts)]

def disruptionBudget : Schema :=
  record [("minAvailable", optText), ("maxUnavailable", optText),
    ("selector", (record [("matchLabels", (dictOf text).defaulting (obj []))]).nullable.described
      "Must stay unset; declaring one fails validation")]

def deploymentPlan : Schema :=
  record [
    ("size", (((word.atLeast "0.0").atMost "100.0").defaulting (int 1)).described
      "Number of broker replicas (0-100)"),
    ("image", optText.described "Broker image; pinning it requires pinning `initImage` too"),
    ("initImage", optText.described "Init image; pinning it requires pinning `image` too"),
    ("extraMounts", (extraMounts.defaulting (ExtraMounts.toJson {})).described
      "Config maps and secrets mounted into every broker pod"),
    ("podDisruptionBudget", disruptionBudget.nullable.described
      "Pod disruption budget for the broker pods")]

def console : Schema :=
  record [
    ("expose", (flag.defaulting (bool false)).described "Expose the console outside the cluster"),
    ("sslEnabled", (flag.defaulting (bool false)).described
      "Serve the console (and management API) over TLS"),
    ("sslSecret", optText.described
      "Secret holding the console keystore; defaults to `<cluster>-console-secret`")]

def clusterSpec : Schema :=
  (record [
    ("version", (optText.withFacet "maxLength" (int 64)).described
      ("Broker version to deploy; a `major` or `major.minor` prefix resolves to the newest " ++
        "supported patch release")),
    ("deploymentPlan", (deploymentPlan.defaulting (DeploymentPlan.toJson {})).described
      "Replica set shape and images"),
    ("console", (console.defaulting (Console.toJson {})).described
      "Management console settings")]).described
    ("BrokerCluster custom resource definition\n\nRepresents a multi-replica broker deployment. " ++
      "The operator validates the declaration, provisions the StatefulSet and services, and " ++
      "projects replica readiness into the status.")

def condition : Schema :=
  ((record [
    ("type", text.described "Type of condition (e.g., Valid, Ready)"),
    ("status",
      (text.withFacet "enum" (strs ([Holds.yes, .no, .unknown].map Holds.render))).described
      "Condition status following Kubernetes conventions"),
    ("reason", plainText.described "Machine-readable reason for the condition"),
    ("message", plainText),
    ("observedGeneration", (long.defaulting (int 0)).described
      "Generation of the spec this condition was computed from"),
    ("lastTransitionTime", optText)]).requiring ["status", "type"]).described
    "Kubernetes-style condition for status reporting"

def clusterStatus : Schema :=
  let versionStatus :=
    record [("image", plainText), ("initImage", plainText), ("brokerVersion", plainText)]
  let externalConfig :=
    (record [("name", text), ("resourceVersion", text)]).requiring ["name", "resourceVersion"]
  let podSummary := record [("ready", texts), ("starting", texts), ("stopped", texts)]
  (record [
    ("deploymentPlanSize", (word.defaulting (int 0)).described
      "Replica count of the last processed spec"),
    ("scaleLabelSelector", plainText.described "Selector used by the scale subresource"),
    ("version", (versionStatus.defaulting (VersionStatus.toJson {})).described
      "Resolved version and images"),
    ("externalConfigs", ((listOf externalConfig).defaulting (arr [])).described
      "Resource versions of mounted config maps/secrets"),
    ("podStatus", (podSummary.defaulting (PodSummary.toJson {})).described
      "Pod names by readiness"),
    ("conditions", ((listOf condition).defaulting (arr [])).described
      "Conditions describing cluster state")]).nullable.described
        "Status of a BrokerCluster resource"

/-! ## Addresses -/

def queueSettings : Schema :=
  let optFlag := flag.nullable
  let optWord := word.nullable
  let optLong := long.nullable
  record [
    ("ignoreIfExists", optFlag), ("routingType", optText), ("filterString", optText),
    ("durable", optFlag), ("user", optText),
    ("maxConsumers", (optWord.atLeast "-1.0").described "-1 means unlimited"),
    ("exclusive", optFlag), ("groupRebalance", optFlag), ("groupBuckets", optWord),
    ("lastValue", optFlag), ("lastValueKey", optText), ("nonDestructive", optFlag),
    ("purgeOnNoConsumers", optFlag), ("enabled", optFlag), ("consumersBeforeDispatch", optWord),
    ("delayBeforeDispatch", optLong), ("consumerPriority", optWord), ("autoDelete", optFlag),
    ("autoDeleteDelay", optLong), ("autoDeleteMessageCount", optLong), ("ringSize", optLong),
    ("configurationManaged", optFlag), ("temporary", optFlag), ("autoCreateAddress", optFlag)]

def addressSpec : Schema :=
  ((record [
    ("addressName", ((text.withFacet "minLength" (int 1)).withFacet "maxLength" (int 255)).described
      "Address name on the broker"),
    ("queueName", optText.described "Queue to create on the address"),
    ("routingType", optText.described "ANYCAST or MULTICAST"),
    ("removeFromBrokerOnDelete", (flag.defaulting (bool false)).described
      "Remove the address/queue from the brokers when this resource is deleted"),
    ("applyToClusterNames", texts.described
      "Target clusters; empty or `\"*\"` means every cluster in the namespace"),
    ("queueConfiguration", queueSettings.nullable.described
      "Queue settings; defaults are applied when absent")]).requiring ["addressName"]).described
    ("BrokerAddress custom resource definition\n\nDeclares an address, and optionally a queue " ++
      "bound to it, that the operator creates on every replica of the targeted clusters.\n\n" ++
      "```yaml apiVersion: broker.operator.dev/v1beta1 kind: BrokerAddress metadata: name: " ++
      "orders spec: addressName: orders queueName: orders.q routingType: ANYCAST " ++
      "applyToClusterNames: [\"*\"] removeFromBrokerOnDelete: true ```")

end Schema

/-! ## The kinds -/

/-- A column that a kind is listed with. -/
structure Column where
  name : String
  type : String
  path : String
  deriving DecidableEq, Repr

structure DeclaredKind where
  kind : String
  singular : String
  plural : String
  shortName : String
  columns : List Column
  subresources : Json
  spec : Schema
  status : Option Schema

namespace DeclaredKind

def group : String := "broker.operator.dev"

def version : String := "v1beta1"

/-- The column of the time of creation. -/
def age : Column := ⟨"Age", "date", ".metadata.creationTimestamp"⟩

/-- Declared clusters, which can be scaled. -/
def cluster : DeclaredKind where
  kind := "BrokerCluster"
  singular := "brokercluster"
  plural := "brokerclusters"
  shortName := "bc"
  columns := [⟨"Size", "integer", ".spec.deploymentPlan.size"⟩,
    ⟨"Version", "string", ".status.version.brokerVersion"⟩,
    ⟨"Ready", "string", ".status.conditions[?(@.type==\"Ready\")].status"⟩, age]
  subresources := obj [("status", obj []),
    ("scale", obj [("specReplicasPath", str ".spec.deploymentPlan.size"),
      ("statusReplicasPath", str ".status.deploymentPlanSize"),
      ("labelSelectorPath", str ".status.scaleLabelSelector")])]
  spec := Schema.clusterSpec
  status := some Schema.clusterStatus

def address : DeclaredKind where
  kind := "BrokerAddress"
  singular := "brokeraddress"
  plural := "brokeraddresses"
  shortName := "ba"
  columns := [⟨"Address", "string", ".spec.addressName"⟩, ⟨"Queue", "string", ".spec.queueName"⟩,
    ⟨"Routing", "string", ".spec.routingType"⟩, age]
  subresources := obj []
  spec := Schema.addressSpec
  status := none

def ofName? (name : String) : Option DeclaredKind := [cluster, address].find? (·.kind == name)

def schema (k : DeclaredKind) : Schema :=
  (((Schema.record ([("spec", k.spec)] ++ (k.status.map fun s => ("status", s)).toList)).requiring
    ["spec"]).described
    ("Auto-generated derived type for " ++ k.kind ++ "Spec via `CustomResource`")).withFacet
    "title" (str k.kind)

/-- The document that makes a kind known to the API server. -/
def definition (k : DeclaredKind) : Json :=
  obj [("apiVersion", str "apiextensions.k8s.io/v1"), ("kind", str "CustomResourceDefinition"),
    ("metadata", obj [("name", str (k.plural ++ "." ++ group))]),
    ("spec", obj [("group", str group),
      ("names", obj [("categories", arr []), ("kind", str k.kind), ("plural", str k.plural),
        ("shortNames", strs [k.shortName]), ("singular", str k.singular)]),
      ("scope", str "Namespaced"),
      ("versions", arr [obj [
        ("additionalPrinterColumns", arr (k.columns.map fun c =>
          obj [("jsonPath", str c.path), ("name", str c.name), ("type", str c.type)])),
        ("name", str version), ("schema", obj [("openAPIV3Schema", k.schema.toJson)]),
        ("served", bool true), ("storage", bool true), ("subresources", k.subresources)]])])]

end DeclaredKind

end BrokerFleet
