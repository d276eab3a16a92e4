import BrokerFleet.Object.Shape

/-! # Shapes of metadata, selectors and the small objects -/

namespace BrokerFleet.Shape

/-- A note of who manages which fields. -/
def managedFields : Shape :=
  record (may text ["apiVersion", "fieldsType", "manager", "operation", "subresource"] ++
    may anything ["fieldsV1"] ++ may time ["time"])

def ownerReference : Shape :=
  record (must text ["apiVersion", "kind", "name", "uid"] ++
    may flag ["blockOwnerDeletion", "controller"])

def metadata : Shape :=
  record (may text ["generateName", "name", "namespace", "resourceVersion", "selfLink", "uid"] ++
    may (dict text) ["annotations", "labels"] ++
    may time ["creationTimestamp", "deletionTimestamp"] ++
    may int64 ["deletionGracePeriodSeconds", "generation"] ++ may (list text) ["finalizers"] ++
    may (list managedFields) ["managedFields"] ++ may (list ownerReference) ["ownerReferences"])

/-- A requirement with a key, an operator and values. -/
def requirement : Shape := record (must text ["key", "operator"] ++ may (list text) ["values"])

def labelSelector : Shape :=
  record (may (list requirement) ["matchExpressions"] ++ may (dict text) ["matchLabels"])

/-- A condition that says since when it holds. -/
def condition : Shape :=
  record (must time ["lastTransitionTime"] ++ must text ["message", "reason", "status", "type"] ++
    may int64 ["observedGeneration"])

/-- A condition whose parts may be unknown. -/
def looseCondition : Shape :=
  record (may time ["lastTransitionTime"] ++ may text ["message", "reason"] ++
    must text ["status", "type"])

def probedCondition : Shape :=
  record (may time ["lastProbeTime", "lastTransitionTime"] ++ may text ["message", "reason"] ++
    must text ["status", "type"])

def configMap : Shape :=
  resource "v1" "ConfigMap" (must metadata ["metadata"] ++ may (dict bytes) ["binaryData"] ++
    may (dict text) ["data"] ++ may flag ["immutable"])

def secret : Shape :=
  resource "v1" "Secret" (must metadata ["metadata"] ++ may (dict bytes) ["data"] ++
    may (dict text) ["stringData"] ++ may flag ["immutable"] ++ may text ["type"])

end BrokerFleet.Shape
