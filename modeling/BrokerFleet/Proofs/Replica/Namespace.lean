import BrokerFleet.Proofs.Program.Confinement
import BrokerFleet.Proofs.Replica.Resolution

/-! # Finding replicas within a namespace

Everything that is read to find the replicas of a namespace is an object of that namespace: its
clusters, their stateful sets and pods, and the secrets that these refer to. So are the clusters
that are found. -/

namespace BrokerFleet

/-! ## Requests within a namespace -/

/-- Whether a request is about a namespace alone: it reads an object there or lists those that are
there, creates or deletes a config map there, or calls a replica of a cluster that is there. -/
def Request.Within (ns : String) : Request → Prop
  | .listClusters ns' => ns' = some ns
  | .getStatefulSet key | .getPod key | .getSecret key | .deleteConfigMap key => key.ns = ns
  | .listConfigMaps ns' _ | .createConfigMap ns' _ => ns' = ns
  | .call target _ => target.cluster.ns = ns
  | _ => False

/-- A listing of the clusters of a namespace holds clusters of that namespace. -/
def ListsOwn : surroundings.Reply → Prop
  | ⟨.listClusters (some ns), .ok clusters⟩ => ∀ c ∈ clusters, c.key.ns = ns
  | _ => True

/-- To ask within a namespace, and to rely on listings of clusters. -/
def within (ns : String) : Contract surroundings := ⟨Request.Within ns, ListsOwn⟩

section Requests

variable {ns : String} {key : ObjectKey} (hkey : key.ns = ns)

include hkey

theorem confined_getPod : (Task.getPod key).Confined (within ns) fun _ => True :=
  ⟨hkey, fun _ _ _ _ => trivial⟩

theorem confined_getStatefulSet : (Task.getStatefulSet key).Confined (within ns) fun _ => True :=
  ⟨hkey, fun _ _ _ _ => trivial⟩

theorem confined_deleteConfigMap : (Task.deleteConfigMap key).Confined (within ns) fun _ => True :=
  ⟨hkey, fun _ _ _ _ => trivial⟩

end Requests

theorem confined_listClusters (ns : String) :
    (Task.listClusters (some ns)).Confined
    (within ns) fun clusters => ∀ c ∈ clusters, c.key.ns = ns := by
  refine ⟨rfl, fun answer hgiven clusters hclusters => ?_⟩
  cases hclusters
  exact hgiven

theorem confined_listConfigMaps (ns selector : String) :
    (Task.listConfigMaps ns selector).Confined (within ns) fun _ => True :=
  ⟨rfl, fun _ _ _ _ => trivial⟩

theorem confined_createConfigMap (ns : String) (map : ConfigMap) :
    (Task.createConfigMap ns map).Confined (within ns) fun _ => True :=
  ⟨rfl, fun _ _ _ _ => trivial⟩

/-! ## Credentials -/

namespace Credentials

variable {C : Contract surroundings} {ns : String}

theorem confined_variableValue {v : EnvVar}
    (hv : ∀ ref, v.secretKeyRef = some ref → C.allowed (.getSecret ⟨ns, ref.name⟩)) :
    (variableValue ns v).Confined C fun _ => True := by
  unfold variableValue
  split
  · exact .pure trivial
  · exact .pure trivial
  · next ref hliteral href =>
    exact Task.Confined.bind ⟨hv ref href, fun _ _ _ _ => trivial⟩ fun _ _ => .pure trivial

theorem confined_addVariable {v : EnvVar}
    (hv : ∀ ref, v.secretKeyRef = some ref → C.allowed (.getSecret ⟨ns, ref.name⟩)) (settled : Bool)
    (c : Credentials) : (addVariable ns settled c v).Confined C fun _ => True := by
  have hvalue := confined_variableValue hv
  unfold addVariable
  split
  · exact hvalue.bind fun _ _ => .pure trivial
  · split
    · exact hvalue.bind fun _ _ => .pure trivial
    · split
      · refine hvalue.bind fun value _ => ?_
        split <;> exact .pure trivial
      · exact .pure trivial

/-- What is read for the credentials of a pod: the management secret, and the secrets that its
variables refer to. -/
theorem confined_resolve {names : ClusterNames} {pod : Pod}
    (hmanagement : C.allowed (.getSecret ⟨ns, names.managementSecret⟩))
    (hvars : ∀ v ∈ brokerVariables pod, ∀ ref, v.secretKeyRef = some ref →
      C.allowed (.getSecret ⟨ns, ref.name⟩)) :
    (resolve ns names pod).Confined C fun _ => True :=
  Task.Confined.bind (P := fun _ => True) ⟨hmanagement, fun _ _ _ _ => trivial⟩ fun _ _ =>
    .foldlM (fun v hv c _ => confined_addVariable (hvars v hv) _ c) trivial

end Credentials

/-! ## Replicas -/

theorem ClusterSelector.confined_clusters (ns : String) (s : ClusterSelector) :
    (s.clusters ns).Confined (within ns) fun keys => ∀ key ∈ keys, key.ns = ns := by
  cases s with
  | all =>
    exact (confined_listClusters ns).bind fun clusters hclusters =>
      .pure (List.forall_mem_map.mpr hclusters)
  | named names => exact .pure (List.forall_mem_map.mpr fun _ _ => rfl)

namespace ResolvedTargets

/-- The replicas are of clusters of a namespace. -/
def AllIn (ns : String) (found : ResolvedTargets) : Prop := ∀ t ∈ found.targets, t.cluster.ns = ns

theorem allIn_joinAll {ns : String} {rs : List ResolvedTargets} (hrs : ∀ r ∈ rs, r.AllIn ns) :
    (joinAll rs).AllIn ns := by
  intro t ht
  obtain ⟨r, hr, htr⟩ := mem_targets_joinAll.mp ht
  exact hrs r hr t htr

theorem confined_replica (domain : String) (cluster : ObjectKey) (ordinal : Nat) :
    (replica domain cluster ordinal).Confined (within cluster.ns) (AllIn cluster.ns) := by
  refine (confined_getPod rfl).bind fun pod _ => ?_
  cases pod with
  | none => exact .pure nofun
  | some pod =>
    refine (Credentials.confined_resolve rfl fun _ _ _ _ => rfl).bind fun credentials _ => .pure ?_
    exact List.forall_mem_singleton.mpr rfl

theorem confined_ofCluster (domain : String) (cluster : ObjectKey) :
    (ofCluster domain cluster).Confined (within cluster.ns) (AllIn cluster.ns) := by
  refine (confined_getStatefulSet rfl).bind fun set _ => ?_
  cases set with
  | none => exact .pure nofun
  | some set =>
    exact (Task.Confined.mapM fun i _ => confined_replica domain cluster i).map
      fun _ => allIn_joinAll

/-- Finding the replicas of a namespace reads nothing outside of it, and finds none outside of
it. -/
theorem confined_resolve (domain ns : String) (selector : ClusterSelector) :
    (resolve domain ns selector).Confined (within ns) (AllIn ns) := by
  refine (selector.confined_clusters ns).bind fun clusters hclusters => ?_
  have hcluster : ∀ cluster ∈ clusters,
      (ofCluster domain cluster).Confined (within ns) (AllIn ns) := by
    intro cluster hmem
    obtain rfl := hclusters cluster hmem
    exact confined_ofCluster domain cluster
  exact (Task.Confined.mapM hcluster).map fun _ => allIn_joinAll

end ResolvedTargets

end BrokerFleet
