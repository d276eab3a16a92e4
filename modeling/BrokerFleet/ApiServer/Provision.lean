import BrokerFleet.ApiServer.Client
import BrokerFleet.Workload.Build

/-! # Provisioning the workload

The objects of a plan are written in order, each after a look at what is there: an object that
belongs to another manager ends the course, and so does every failure. -/

namespace BrokerFleet

/-- An object that a plan wants to exist. -/
structure PlannedObject where
  collection : ApiCollection
  shape : Shape
  key : ObjectKey
  document : Json

namespace WorkloadPlan

/-- The objects of a plan in the order in which they are written. -/
def objects (p : WorkloadPlan) (handler : Option ConfigHandler) : List PlannedObject :=
  let planned :=
    fun (collection : ApiCollection) (shape : Shape) (m : Metadata) (document : Json) =>
    PlannedObject.mk collection shape ⟨p.ns, m.anyName⟩ document
  let headless := p.headlessService
  let ping := p.pingService
  let set := p.statefulSet handler
  [planned .services .service headless.metadata headless.toJson,
    planned .services .service ping.metadata ping.toJson,
    planned .statefulSets .statefulSet set.metadata set.toJson] ++
    (p.disruptionBudget?.map fun b =>
      planned .disruptionBudgets .disruptionBudget b.metadata b.toJson).toList

end WorkloadPlan

namespace ApiServer

def metadataOf (shape : Shape) : Json.Decoder Metadata := fun v => do
  let v ← shape.read? v
  Json.lenient Metadata.ofJson? {} "metadata" v

/-- Writes an object, unless it belongs to another manager. -/
def apply (o : PlannedObject) : ApiTask Unit := do
  match ← find? o.collection (metadataOf o.shape) o.key with
  | some existing => ExceptT.mk (pure (verifyOwnership existing))
  | none => pure ()
  let _ ← task (send (ApiRequest.apply o.collection o.key o.document) (metadataOf o.shape))

def provision (c : Cluster) (handler : Option ConfigHandler) : ApiTask Unit := do
  let plan ← ExceptT.mk (pure (WorkloadPlan.ofCluster c))
  (plan.objects handler).forM apply

end ApiServer

end BrokerFleet
