import BrokerFleet.Object.Shape.Pod

/-! # Shapes of stateful sets, services and disruption budgets -/

namespace BrokerFleet.Shape

def statefulSetSpec : Shape :=
  record (must labelSelector ["selector"] ++ must text ["serviceName"] ++
    must podTemplate ["template"] ++
    may int32 ["minReadySeconds", "replicas", "revisionHistoryLimit"] ++
    may (record (may int32 ["start"])) ["ordinals"] ++
    may (record (may text ["whenDeleted", "whenScaled"]))
      ["persistentVolumeClaimRetentionPolicy"] ++
    may text ["podManagementPolicy"] ++
    may (record (may text ["type"] ++
      may (record (may intOrText ["maxUnavailable"] ++ may int32 ["partition"])) ["rollingUpdate"]))
      ["updateStrategy"] ++
    may (list claim) ["volumeClaimTemplates"])

def statefulSetStatus : Shape :=
  record (must int32 ["replicas"] ++
    may int32 ["availableReplicas", "collisionCount", "currentReplicas", "readyReplicas",
      "updatedReplicas"] ++
    may (list looseCondition) ["conditions"] ++ may text ["currentRevision", "updateRevision"] ++
    may int64 ["observedGeneration"])

def statefulSet : Shape :=
  resource "apps/v1" "StatefulSet" (must metadata ["metadata"] ++ may statefulSetSpec ["spec"] ++
    may statefulSetStatus ["status"])

def serviceSpec : Shape :=
  record (may flag ["allocateLoadBalancerNodePorts", "publishNotReadyAddresses"] ++
    may text ["clusterIP", "externalName", "externalTrafficPolicy", "internalTrafficPolicy",
      "ipFamilyPolicy", "loadBalancerClass", "loadBalancerIP", "sessionAffinity",
      "trafficDistribution", "type"] ++
    may (list text) ["clusterIPs", "externalIPs", "ipFamilies", "loadBalancerSourceRanges"] ++
    may int32 ["healthCheckNodePort"] ++
    may (list (record (must int32 ["port"] ++ may int32 ["nodePort"] ++
      may text ["appProtocol", "name", "protocol"] ++ may intOrText ["targetPort"]))) ["ports"] ++
    may (dict text) ["selector"] ++
    may (record (may (record (may int32 ["timeoutSeconds"])) ["clientIP"]))
      ["sessionAffinityConfig"])

def serviceStatus : Shape :=
  record (may (list condition) ["conditions"] ++
    may (record (may (list (record (may text ["hostname", "ip", "ipMode"] ++
      may (list (record (must int32 ["port"] ++ must text ["protocol"] ++ may text ["error"])))
        ["ports"]))) ["ingress"])) ["loadBalancer"])

def service : Shape :=
  resource "v1" "Service" (must metadata ["metadata"] ++ may serviceSpec ["spec"] ++
    may serviceStatus ["status"])

def disruptionBudget : Shape :=
  resource "policy/v1" "PodDisruptionBudget" (must metadata ["metadata"] ++
    may (record (may intOrText ["maxUnavailable", "minAvailable"] ++
      may labelSelector ["selector"] ++
      may text ["unhealthyPodEvictionPolicy"])) ["spec"] ++
    may (record (must int32 ["currentHealthy", "desiredHealthy", "disruptionsAllowed",
      "expectedPods"] ++
      may (list condition) ["conditions"] ++ may (dict time) ["disruptedPods"] ++
      may int64 ["observedGeneration"])) ["status"])

end BrokerFleet.Shape
