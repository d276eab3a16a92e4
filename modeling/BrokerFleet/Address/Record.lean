import BrokerFleet.Surroundings
import BrokerFleet.Cluster.Names

/-! # Records of what was done

After a success the version of a declaration is kept in a config map beside it. A later pass that
finds the same version there has nothing to do. A record is found by the kind of declaration and by
labels of the owner's choice. -/

namespace BrokerFleet

/-- The state of a declaration when it was last brought to the brokers. -/
structure Record where
  owner : ObjectKey
  kind : String
  snapshot : String
  checksum : String
  labels : Dict String String
  deriving DecidableEq

namespace Record

/-- The label that tells records of different kinds apart. -/
def kindLabel : String := "broker.operator.dev/reconciled-kind"

/-- The name of the record of an owner. -/
def nameOf (owner : ObjectKey) (kind : String) : String :=
  owner.name ++ "-" ++ kind ++ "-reconciled"

/-- The labels of the record's config map. -/
def labelsOf (labels : Dict String String) (kind : String) : Dict String String :=
  labels.insert kindLabel kind

def name (r : Record) : String := nameOf r.owner r.kind

def toConfigMap (r : Record) : ConfigMap where
  metadata :=
    { name := some r.name, ns := some r.owner.ns, labels := some (labelsOf r.labels r.kind) }
  data := some (.ofList [("checksum", r.checksum), ("snapshot", r.snapshot), ("kind", r.kind)])

/-- The record that a config map holds, if it holds a checksum. -/
def ofConfigMap? (owner : ObjectKey) (kind : String) (map : ConfigMap) : Option Record := do
  let data ← map.data
  let checksum ← data.get? "checksum"
  some {
    owner
    kind := (data.get? "kind").getD kind
    snapshot := (data.get? "snapshot").getD ""
    checksum
    labels := map.metadata.labelSet.erase kindLabel }

def lookup (owner : ObjectKey) (kind : String) (labels : Dict String String) :
    Task (Option Record) := do
  let maps ← Task.listConfigMaps owner.ns (selectorOf (labelsOf labels kind))
  pure ((maps.find? fun m => m.metadata.anyName == nameOf owner kind).bind
    (ofConfigMap? owner kind))

/-- Whether the record of an owner has the given checksum. -/
def isUnchanged (owner : ObjectKey) (kind : String) (labels : Dict String String)
    (checksum : String) :
    Task Bool := do
  let record ← lookup owner kind labels
  pure (record.any (·.checksum == checksum))

/-- Puts a record in the place of an earlier one. -/
def store (r : Record) : Task Unit := do
  Task.deleteConfigMap ⟨r.owner.ns, r.name⟩
  Task.createConfigMap r.owner.ns r.toConfigMap

def remove (owner : ObjectKey) (kind : String) : Task Unit :=
  Task.deleteConfigMap ⟨owner.ns, nameOf owner kind⟩

end Record

end BrokerFleet
