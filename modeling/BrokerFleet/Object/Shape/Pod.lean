import BrokerFleet.Object.Shape.Container

/-! # Shapes of pods -/

namespace BrokerFleet.Shape

/-- A term that selects nodes. -/
def nodeTerm : Shape := record (may (list requirement) ["matchExpressions", "matchFields"])

/-- A term that selects pods to be near to. -/
def podTerm : Shape :=
  record (must text ["topologyKey"] ++ may labelSelector ["labelSelector", "namespaceSelector"] ++
    may (list text) ["matchLabelKeys", "mismatchLabelKeys", "namespaces"])

/-- Which pods to be near to, or far from. -/
def podAffinity : Shape :=
  record (may (list (record (must podTerm ["podAffinityTerm"] ++ must int32 ["weight"])))
      ["preferredDuringSchedulingIgnoredDuringExecution"] ++
    may (list podTerm) ["requiredDuringSchedulingIgnoredDuringExecution"])

/-- Where a pod likes to run. -/
def affinity : Shape :=
  record (may (record (
      may (list (record (must nodeTerm ["preference"] ++ must int32 ["weight"])))
        ["preferredDuringSchedulingIgnoredDuringExecution"] ++
      may (record (must (list nodeTerm) ["nodeSelectorTerms"]))
        ["requiredDuringSchedulingIgnoredDuringExecution"])) ["nodeAffinity"] ++
    may podAffinity ["podAffinity", "podAntiAffinity"])

def podSecurity : Shape :=
  record (security ++ may int64 ["fsGroup"] ++
    may text ["fsGroupChangePolicy", "seLinuxChangePolicy", "supplementalGroupsPolicy"] ++
    may (list int64) ["supplementalGroups"] ++
    may (list (record (must text ["name", "value"]))) ["sysctls"])

/-- How pods spread. -/
def spread : Shape :=
  record (must int32 ["maxSkew"] ++ must text ["topologyKey", "whenUnsatisfiable"] ++
    may labelSelector ["labelSelector"] ++ may (list text) ["matchLabelKeys"] ++
    may int32 ["minDomains"] ++ may text ["nodeAffinityPolicy", "nodeTaintsPolicy"])

def podSpec : Shape :=
  record (must (list container) ["containers"] ++ may (list container) ["initContainers"] ++
    may (list addedContainer) ["ephemeralContainers"] ++ may (list volume) ["volumes"] ++
    may int64 ["activeDeadlineSeconds", "terminationGracePeriodSeconds"] ++
    may int32 ["priority"] ++
    may affinity ["affinity"] ++
    may flag ["automountServiceAccountToken", "enableServiceLinks", "hostIPC",
      "hostNetwork", "hostPID", "hostUsers", "setHostnameAsFQDN", "shareProcessNamespace"] ++
    may text ["dnsPolicy", "hostname", "nodeName", "preemptionPolicy", "priorityClassName",
      "restartPolicy", "runtimeClassName", "schedulerName", "serviceAccount", "serviceAccountName",
      "subdomain"] ++
    may (record (may (list text) ["nameservers", "searches"] ++
      may (list (record (may text ["name", "value"]))) ["options"])) ["dnsConfig"] ++
    may (list (record (must text ["ip"] ++ may (list text) ["hostnames"]))) ["hostAliases"] ++
    may (list localReference) ["imagePullSecrets"] ++
    may (dict text) ["nodeSelector", "overhead"] ++
    may (record (must text ["name"])) ["os"] ++
    may (list (record (must text ["conditionType"]))) ["readinessGates"] ++
    may (list (record (must text ["name"] ++
      may text ["resourceClaimName", "resourceClaimTemplateName"]))) ["resourceClaims"] ++
    may resources ["resources"] ++ may (list (record (must text ["name"]))) ["schedulingGates"] ++
    may podSecurity ["securityContext"] ++
    may (list (record (may text ["effect", "key", "operator", "value"] ++
      may int64 ["tolerationSeconds"]))) ["tolerations"] ++
    may (list spread) ["topologySpreadConstraints"])

def podStatus : Shape :=
  record (may (list probedCondition) ["conditions"] ++
    may (list containerStatus) ["containerStatuses", "ephemeralContainerStatuses",
      "initContainerStatuses"] ++
    may text ["hostIP", "message", "nominatedNodeName", "phase", "podIP", "qosClass", "reason",
      "resize"] ++
    may (list (record (must text ["ip"]))) ["hostIPs", "podIPs"] ++
    may (list (record (must text ["name"] ++ may text ["resourceClaimName"])))
      ["resourceClaimStatuses"] ++
    may time ["startTime"])

def pod : Shape :=
  resource "v1" "Pod" (must metadata ["metadata"] ++ may podSpec ["spec"] ++
    may podStatus ["status"])

/-- The pod that a workload makes. -/
def podTemplate : Shape := record (may metadata ["metadata"] ++ may podSpec ["spec"])

end BrokerFleet.Shape
