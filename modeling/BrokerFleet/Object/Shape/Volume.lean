import BrokerFleet.Object.Shape.Metadata

/-! # Shapes of volumes and claims -/

namespace BrokerFleet.Shape

/-- A reference by name within a namespace. -/
def localReference : Shape := record (must text ["name"])

/-- A key with the path of the file that shows its value. -/
def keyToPath : Shape := record (must text ["key", "path"] ++ may int32 ["mode"])

/-- A field of an object by its path. -/
def fieldReference : Shape := record (must text ["fieldPath"] ++ may text ["apiVersion"])

/-- A resource of a container. -/
def resourceReference : Shape :=
  record (must text ["resource"] ++ may text ["containerName", "divisor"])

/-- A file that shows a field of the pod. -/
def downwardFile : Shape :=
  record (must text ["path"] ++ may int32 ["mode"] ++ may fieldReference ["fieldRef"] ++
    may resourceReference ["resourceFieldRef"])

/-- Some keys of a named object as files. -/
def projectedKeys : Shape :=
  record (must text ["name"] ++ may (list keyToPath) ["items"] ++ may flag ["optional"])

/-- One source of a projected volume. -/
def projection : Shape :=
  record (
    may (record (must text ["path"] ++ may text ["name", "signerName"] ++ may flag ["optional"] ++
      may labelSelector ["labelSelector"])) ["clusterTrustBundle"] ++
    may projectedKeys ["configMap", "secret"] ++
    may (record (may (list downwardFile) ["items"])) ["downwardAPI"] ++
    may (record (must text ["path"] ++ may text ["audience"] ++ may int64 ["expirationSeconds"]))
      ["serviceAccountToken"])

def claimSpec : Shape :=
  record (may (list text) ["accessModes"] ++
    may (record (must text ["kind", "name"] ++ may text ["apiGroup"])) ["dataSource"] ++
    may (record (must text ["kind", "name"] ++ may text ["apiGroup", "namespace"]))
      ["dataSourceRef"] ++
    may (record (may (dict text) ["limits", "requests"])) ["resources"] ++
    may labelSelector ["selector"] ++
    may text ["storageClassName", "volumeAttributesClassName", "volumeMode", "volumeName"])

def claimStatus : Shape :=
  record (may (list text) ["accessModes"] ++
    may (dict text) ["allocatedResourceStatuses", "allocatedResources", "capacity"] ++
    may (list probedCondition) ["conditions"] ++
    may text ["currentVolumeAttributesClassName", "phase"] ++
    may (record (must text ["status"] ++ may text ["targetVolumeAttributesClassName"]))
      ["modifyVolumeStatus"])

def claim : Shape :=
  resource "v1" "PersistentVolumeClaim" (must metadata ["metadata"] ++ may claimSpec ["spec"] ++
    may claimStatus ["status"])

/-- The kinds of volumes that are disks or file systems served by others. -/
def servedVolumes : List (String × Bool × Shape) :=
  may (record (must text ["volumeID"] ++ may text ["fsType"] ++ may int32 ["partition"] ++
    may flag ["readOnly"])) ["awsElasticBlockStore"] ++
  may (record (must text ["diskName", "diskURI"] ++ may text ["cachingMode", "fsType", "kind"] ++
    may flag ["readOnly"])) ["azureDisk"] ++
  may (record (must text ["secretName", "shareName"] ++ may flag ["readOnly"])) ["azureFile"] ++
  may (record (must (list text) ["monitors"] ++ may text ["path", "secretFile", "user"] ++
    may flag ["readOnly"] ++ may localReference ["secretRef"])) ["cephfs"] ++
  may (record (must text ["volumeID"] ++ may text ["fsType"] ++ may flag ["readOnly"] ++
    may localReference ["secretRef"])) ["cinder"] ++
  may (record (must text ["driver"] ++ may text ["fsType"] ++ may flag ["readOnly"] ++
    may localReference ["nodePublishSecretRef"] ++ may (dict text) ["volumeAttributes"])) ["csi"] ++
  may (record (may text ["fsType"] ++ may int32 ["lun"] ++ may flag ["readOnly"] ++
    may (list text) ["targetWWNs", "wwids"])) ["fc"] ++
  may (record (must text ["driver"] ++ may text ["fsType"] ++ may (dict text) ["options"] ++
    may flag ["readOnly"] ++ may localReference ["secretRef"])) ["flexVolume"] ++
  may (record (may text ["datasetName", "datasetUUID"])) ["flocker"] ++
  may (record (must text ["pdName"] ++ may text ["fsType"] ++ may int32 ["partition"] ++
    may flag ["readOnly"])) ["gcePersistentDisk"] ++
  may (record (must text ["repository"] ++ may text ["directory", "revision"])) ["gitRepo"] ++
  may (record (must text ["endpoints", "path"] ++ may flag ["readOnly"])) ["glusterfs"] ++
  may (record (must text ["iqn", "targetPortal"] ++ must int32 ["lun"] ++
    may flag ["chapAuthDiscovery", "chapAuthSession", "readOnly"] ++
    may text ["fsType", "initiatorName", "iscsiInterface"] ++ may (list text) ["portals"] ++
    may localReference ["secretRef"])) ["iscsi"] ++
  may (record (must text ["path", "server"] ++ may flag ["readOnly"])) ["nfs"] ++
  may (record (must text ["pdID"] ++ may text ["fsType"])) ["photonPersistentDisk"] ++
  may (record (must text ["volumeID"] ++ may text ["fsType"] ++ may flag ["readOnly"]))
    ["portworxVolume"] ++
  may (record (must text ["registry", "volume"] ++ may text ["group", "tenant", "user"] ++
    may flag ["readOnly"])) ["quobyte"] ++
  may (record (must text ["image"] ++ must (list text) ["monitors"] ++
    may text ["fsType", "keyring", "pool", "user"] ++ may flag ["readOnly"] ++
    may localReference ["secretRef"])) ["rbd"] ++
  may (record (must text ["gateway", "system"] ++ must localReference ["secretRef"] ++
    may text ["fsType", "protectionDomain", "storageMode", "storagePool", "volumeName"] ++
    may flag ["readOnly", "sslEnabled"])) ["scaleIO"] ++
  may (record (may text ["fsType", "volumeName", "volumeNamespace"] ++ may flag ["readOnly"] ++
    may localReference ["secretRef"])) ["storageos"] ++
  may (record (must text ["volumePath"] ++
    may text ["fsType", "storagePolicyID", "storagePolicyName"]))
    ["vsphereVolume"]

def volume : Shape :=
  record (must text ["name"] ++
    may (record (must text ["name"] ++ may int32 ["defaultMode"] ++
      may (list keyToPath) ["items"] ++
      may flag ["optional"])) ["configMap"] ++
    may (record (may int32 ["defaultMode"] ++ may (list downwardFile) ["items"])) ["downwardAPI"] ++
    may (record (may text ["medium", "sizeLimit"])) ["emptyDir"] ++
    may (record (may (record (may metadata ["metadata"] ++ must claimSpec ["spec"]))
      ["volumeClaimTemplate"])) ["ephemeral"] ++
    may (record (must text ["path"] ++ may text ["type"])) ["hostPath"] ++
    may (record (may text ["pullPolicy", "reference"])) ["image"] ++
    may (record (must text ["claimName"] ++ may flag ["readOnly"])) ["persistentVolumeClaim"] ++
    may (record (may int32 ["defaultMode"] ++ may (list projection) ["sources"])) ["projected"] ++
    may (record (may int32 ["defaultMode"] ++ may (list keyToPath) ["items"] ++
      may flag ["optional"] ++
      may text ["secretName"])) ["secret"] ++ servedVolumes)

end BrokerFleet.Shape
