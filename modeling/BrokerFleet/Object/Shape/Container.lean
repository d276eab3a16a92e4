import BrokerFleet.Object.Shape.Volume

/-! # Shapes of containers -/

namespace BrokerFleet.Shape

/-- A key of a config map or a secret. -/
def keySelector : Shape := record (must text ["key", "name"] ++ may flag ["optional"])

def envVar : Shape :=
  record (must text ["name"] ++ may text ["value"] ++
    may (record (may keySelector ["configMapKeyRef", "secretKeyRef"] ++
      may fieldReference ["fieldRef"] ++ may resourceReference ["resourceFieldRef"])) ["valueFrom"])

/-- A whole config map or secret as environment variables. -/
def envFrom : Shape :=
  record (may text ["prefix"] ++
    may (record (must text ["name"] ++ may flag ["optional"])) ["configMapRef", "secretRef"])

/-- A command. -/
def execAction : Shape := record (may (list text) ["command"])

/-- A request over HTTP. -/
def httpAction : Shape :=
  record (must intOrText ["port"] ++ may text ["host", "path", "scheme"] ++
    may (list (record (must text ["name", "value"]))) ["httpHeaders"])

/-- The opening of a port. -/
def socketAction : Shape := record (must intOrText ["port"] ++ may text ["host"])

/-- What is done when a container starts or stops. -/
def lifecycleHandler : Shape :=
  record (may execAction ["exec"] ++ may httpAction ["httpGet"] ++ may socketAction ["tcpSocket"] ++
    may (record (must int64 ["seconds"])) ["sleep"])

def probe : Shape :=
  record (may execAction ["exec"] ++ may httpAction ["httpGet"] ++ may socketAction ["tcpSocket"] ++
    may (record (must int32 ["port"] ++ may text ["service"])) ["grpc"] ++
    may int32 ["failureThreshold", "initialDelaySeconds", "periodSeconds", "successThreshold",
      "timeoutSeconds"] ++
    may int64 ["terminationGracePeriodSeconds"])

def resources : Shape :=
  record (may (list (record (must text ["name"] ++ may text ["request"]))) ["claims"] ++
    may (dict text) ["limits", "requests"])

def profile : Shape := record (must text ["type"] ++ may text ["localhostProfile"])

/-- Security settings that pods and containers share. -/
def security : List (String × Bool × Shape) :=
  may profile ["appArmorProfile", "seccompProfile"] ++ may int64 ["runAsGroup", "runAsUser"] ++
  may flag ["runAsNonRoot"] ++
  may (record (may text ["level", "role", "type", "user"])) ["seLinuxOptions"] ++
  may (record (may text ["gmsaCredentialSpec", "gmsaCredentialSpecName", "runAsUserName"] ++
    may flag ["hostProcess"])) ["windowsOptions"]

def containerSecurity : Shape :=
  record (security ++
    may flag ["allowPrivilegeEscalation", "privileged", "readOnlyRootFilesystem"] ++
    may (record (may (list text) ["add", "drop"])) ["capabilities"] ++ may text ["procMount"])

def containerFields : List (String × Bool × Shape) :=
  must text ["name"] ++ may (list text) ["args", "command"] ++ may (list envVar) ["env"] ++
  may (list envFrom) ["envFrom"] ++
  may text ["image", "imagePullPolicy", "restartPolicy", "terminationMessagePath",
    "terminationMessagePolicy", "workingDir"] ++
  may (record (may lifecycleHandler ["postStart", "preStop"])) ["lifecycle"] ++
  may probe ["livenessProbe", "readinessProbe", "startupProbe"] ++
  may (list (record (must int32 ["containerPort"] ++ may int32 ["hostPort"] ++
    may text ["hostIP", "name", "protocol"]))) ["ports"] ++
  may (list (record (must text ["resourceName", "restartPolicy"]))) ["resizePolicy"] ++
  may resources ["resources"] ++ may containerSecurity ["securityContext"] ++
  may flag ["stdin", "stdinOnce", "tty"] ++
  may (list (record (must text ["devicePath", "name"]))) ["volumeDevices"] ++
  may (list (record (must text ["mountPath", "name"] ++ may flag ["readOnly"] ++
    may text ["mountPropagation", "recursiveReadOnly", "subPath", "subPathExpr"]))) ["volumeMounts"]

def container : Shape := record containerFields

/-- A container that is added to a running pod. -/
def addedContainer : Shape := record (containerFields ++ may text ["targetContainerName"])

def containerState : Shape :=
  record (may (record (may time ["startedAt"])) ["running"] ++
    may (record (must int32 ["exitCode"] ++ may text ["containerID", "message", "reason"] ++
      may int32 ["signal"] ++ may time ["finishedAt", "startedAt"])) ["terminated"] ++
    may (record (may text ["message", "reason"])) ["waiting"])

def containerStatus : Shape :=
  record (must text ["image", "imageID", "name"] ++ must flag ["ready"] ++
    must int32 ["restartCount"] ++
    may (dict text) ["allocatedResources"] ++
    may (list (record (must text ["name"] ++
      may (list (record (must text ["resourceID"] ++ may text ["health"]))) ["resources"])))
      ["allocatedResourcesStatus"] ++
    may text ["containerID"] ++ may containerState ["lastState", "state"] ++
    may resources ["resources"] ++
    may flag ["started"] ++
    may (record (may (record (must int64 ["gid", "uid"] ++ may (list int64) ["supplementalGroups"]))
      ["linux"])) ["user"] ++
    may (list (record (must text ["mountPath", "name"] ++ may flag ["readOnly"] ++
      may text ["recursiveReadOnly"]))) ["volumeMounts"])

end BrokerFleet.Shape
