import BrokerFleet.Proofs.ApiServer.Footprint
import BrokerFleet.Proofs.Cluster.Derived
import BrokerFleet.Proofs.Replica.Namespace
import BrokerFleet.Proofs.Workload.Template

/-! # Clusters side by side

Provisioning a cluster writes objects that are derived from it, and looking for its replicas reads
such objects. So clusters of different names leave each other alone in a namespace that they
share. -/

namespace BrokerFleet

/-! ## What is written -/

namespace WorkloadPlan

variable {p : WorkloadPlan} {handler : Option ConfigHandler}

theorem derives_of_mem_objects {o : PlannedObject} (ho : o ∈ p.objects handler) :
    ∃ kind, o.collection = kind.collection ∧ o.key.ns = p.ns ∧
    p.cluster.Derives kind o.key.name := by
  simp only [objects, List.mem_append, List.mem_cons, List.not_mem_nil, or_false, Option.mem_toList,
    Option.map_eq_some_iff] at ho
  rcases ho with (rfl | rfl | rfl) | ⟨budget, hbudget, rfl⟩
  · exact ⟨.service, rfl, rfl, .headlessService⟩
  · exact ⟨.service, rfl, rfl, .pingService⟩
  · exact ⟨.statefulSet, rfl, rfl, .statefulSet⟩
  · obtain ⟨declared, -, rfl⟩ := Option.map_eq_some_iff.mp hbudget
    exact ⟨.disruptionBudget, rfl, rfl, .disruptionBudget⟩

end WorkloadPlan

/-- Provisioning reads and writes objects that are derived from the cluster. -/
theorem Cluster.asks_provision (c : Cluster) (handler : Option ConfigHandler) :
    (ApiServer.provision c handler).run.Asks fun r =>
      ∃ kind name, c.Derives kind name ∧
        ApiRequest.Concerns kind.collection ⟨c.key.ns, name⟩ r := by
  refine (ApiServer.asks_provision c handler).mono ?_
  rintro r ⟨p, hplan, o, ho, hconcerns⟩
  obtain ⟨rfl, hkey⟩ := WorkloadPlan.ofCluster_ok hplan
  obtain ⟨kind, hcollection, hns, hderives⟩ := WorkloadPlan.derives_of_mem_objects ho
  refine ⟨kind, o.key.name, hderives, ?_⟩
  rw [hkey, ← hns, ← hcollection]
  exact hconcerns

/-! ## Paths -/

open Http.Target (Unbroken unbroken_append)

namespace ObjectKind

theorem unbroken_of_mem_endings (kind : ObjectKind) : ∀ tail ∈ kind.endings, Unbroken tail := by
  cases kind <;> decide

theorem unbroken_objectPath (kind : ObjectKind) {key : ObjectKey} (hns : Unbroken key.ns)
    (hname : Unbroken key.name) :
    Unbroken (kind.collection.objectPath key) := by
  have hcollection : Unbroken kind.collection.root ∧ Unbroken kind.collection.plural := by
    cases kind <;> decide
  have hfixed : Unbroken "/namespaces/" ∧ Unbroken "/" := by decide
  simp only [ApiCollection.objectPath, ApiCollection.path, unbroken_append]
  exact ⟨⟨⟨⟨⟨⟨hcollection.1, hfixed.1⟩, hns⟩, hfixed.2⟩, hcollection.2⟩, hfixed.2⟩, hname⟩

end ObjectKind

theorem unbroken_stem {name : String} (hname : Unbroken name) : Unbroken (stem name) := by
  unfold stem
  split
  · decide
  · exact unbroken_append.mpr ⟨hname, by decide⟩

namespace Cluster

variable {c c' : Cluster} {kind : ObjectKind} {name : String}

theorem Derives.unbroken (h : c.Derives kind name) (hc : Unbroken c.metadata.anyName) :
    Unbroken name := by
  by_cases hpod : kind = .pod
  · subst hpod
    obtain ⟨ordinal, rfl⟩ := h.exists_ordinal
    have hset : Unbroken (ClusterNames.ofName c.metadata.anyName).statefulSet := by
      rw [show (ClusterNames.ofName c.metadata.anyName).statefulSet = _ from
        hyphenated_cons _ (by decide)]
      exact unbroken_append.mpr ⟨unbroken_stem hc, by decide⟩
    have hordinal : Unbroken (toString ordinal) :=
      ⟨Text.notMem_toString (by decide) ordinal, Text.notMem_toString (by decide) ordinal⟩
    exact unbroken_append.mpr ⟨unbroken_append.mpr ⟨hset, by decide⟩, hordinal⟩
  · by_cases hbudget : kind = .disruptionBudget
    · subst hbudget
      rw [h.budget_eq]
      exact unbroken_append.mpr ⟨hc, by decide⟩
    · obtain ⟨tail, htail, rfl⟩ := h.exists_ending hpod hbudget
      exact unbroken_append.mpr ⟨unbroken_stem hc, kind.unbroken_of_mem_endings tail htail⟩

/-- A request about an object that is derived from a cluster goes to no path of an object of another
one. -/
theorem Derives.path_ne {r : ApiRequest} (h : c.Derives kind name)
    (hne : c.metadata.anyName ≠ c'.metadata.anyName) (hns : Unbroken c.key.ns)
    (hc : Unbroken c.metadata.anyName) (hr : ApiRequest.Concerns kind.collection ⟨c.key.ns, name⟩ r)
    {kind' : ObjectKind} {name' : String} (h' : c'.Derives kind' name') :
    r.target.path ≠ kind'.collection.objectPath ⟨c.key.ns, name'⟩ := by
  intro hpath
  rw [hr.path (kind.unbroken_objectPath hns (h.unbroken hc))] at hpath
  obtain ⟨rfl, rfl⟩ := ObjectKind.objectPath_inj hpath
  exact hne (h.cluster_inj h')

end Cluster

/-! ## What is read -/

/-- The object that a request of a look-up reads, by its kind. -/
def Request.object? : Request → Option (ObjectKind × ObjectKey)
  | .getStatefulSet key => some (.statefulSet, key)
  | .getPod key => some (.pod, key)
  | .getSecret key => some (.secret, key)
  | _ => none

theorem WorkloadPlan.secret_of_mem_environment {p : WorkloadPlan} {v : EnvVar}
    (hv : v ∈ p.environment) {ref : SecretKeyRef} (href : v.secretKeyRef = some ref) :
    ref.name = p.names.credentialsSecret := by
  simp only [environment, List.mem_append, List.mem_cons, List.not_mem_nil, or_false] at hv
  rcases hv with (rfl | rfl | rfl) | hv
  · cases href
    rfl
  · cases href
    rfl
  · cases href
  · split at hv
    · cases List.mem_singleton.mp hv
      cases href
    · cases hv

namespace Cluster

/-- Whether a pod was made from the template of a cluster. -/
def Deploys (c : Cluster) (pod : Pod) : Prop :=
  ∃ p handler i, WorkloadPlan.ofCluster c = .ok p ∧ StampedFrom (p.statefulSet handler) i pod

/-- Every pod that is found was made from the template of a cluster. -/
def FindsOwn (c : Cluster) : surroundings.Reply → Prop
  | ⟨.getPod _, .ok (some pod)⟩ => c.Deploys pod
  | _ => True

/-- To read what is derived from a cluster, and to rely on its pods. -/
def lookup (c : Cluster) : Contract surroundings where
  allowed r := ∃ kind name, c.Derives kind name ∧ r.object? = some (kind, ⟨c.key.ns, name⟩)
  given := c.FindsOwn

variable {c : Cluster}

theorem allowed_lookup_pod (ordinal : Nat) :
    c.lookup.allowed
      (.getPod ⟨c.key.ns, (ClusterNames.ofName c.metadata.anyName).pod ordinal⟩) := by
  have hpod := Derives.pod (c := c) ordinal
  rw [ClusterNames.ofCluster_eq] at hpod
  exact ⟨_, _, hpod, rfl⟩

theorem confined_credentials {pod : Pod} (hpod : c.Deploys pod) :
    (Credentials.resolve c.key.ns (.ofName c.key.name) pod).Confined c.lookup fun _ => True := by
  obtain ⟨p, handler, i, hplan, hstamped⟩ := hpod
  obtain ⟨rfl, -⟩ := WorkloadPlan.ofCluster_ok hplan
  refine Credentials.confined_resolve ?_ fun v hv ref href => ?_
  · have hmanagement := Derives.managementSecret (c := p.cluster)
    rw [ClusterNames.ofCluster_eq] at hmanagement
    exact ⟨_, _, hmanagement, rfl⟩
  · rw [WorkloadPlan.brokerVariables_of_stamped hstamped] at hv
    rw [WorkloadPlan.secret_of_mem_environment hv href]
    exact ⟨_, _, .credentialsSecret, rfl⟩

theorem confined_replica (domain : String) (ordinal : Nat) :
    (ResolvedTargets.replica domain c.key ordinal).Confined c.lookup fun _ => True := by
  have hpod : (Task.getPod ⟨c.key.ns, (ClusterNames.ofName c.key.name).pod ordinal⟩).Confined
      c.lookup
      fun found => ∀ pod, found = some pod → c.Deploys pod := by
    refine ⟨allowed_lookup_pod ordinal, fun answer hgiven found hfound pod hsome => ?_⟩
    subst hfound hsome
    exact hgiven
  refine hpod.bind fun found hfound => ?_
  cases found with
  | none => exact .pure trivial
  | some pod => exact (confined_credentials (hfound pod rfl)).bind fun _ _ => .pure trivial

/-- Looking for the replicas of a cluster reads objects that are derived from it, if its pods were
made from its template. -/
theorem confined_lookup (c : Cluster) (domain : String) :
    (ResolvedTargets.ofCluster domain c.key).Confined c.lookup fun _ => True := by
  have hset : (Task.getStatefulSet ⟨c.key.ns, statefulSetName c.key.name⟩).Confined c.lookup
      fun _ => True := by
    have hset := Derives.statefulSet (c := c)
    rw [ClusterNames.ofCluster_eq] at hset
    exact ⟨⟨_, _, hset, rfl⟩, fun _ _ _ _ => trivial⟩
  refine hset.bind fun found _ => ?_
  cases found with
  | none => exact .pure trivial
  | some set =>
    exact (Task.Confined.mapM fun ordinal _ => confined_replica domain ordinal).map
      fun _ _ => trivial

/-! ## Side by side -/

/-- Clusters of different names have no derived object in common. So provisioning one of them asks
nothing about an object of the other, nor does it reach the path of one where the names are
unbroken, as a server requires of names; and looking for the replicas of one, with their
credentials, reads nothing of the other if the pods that are found were made from the template. -/
theorem kept_apart {c c' : Cluster} (hne : c.metadata.anyName ≠ c'.metadata.anyName) :
    (∀ kind name, c.Derives kind name → ¬ c'.Derives kind name) ∧
    (∀ handler, (ApiServer.provision c handler).run.Asks fun (r : ApiRequest) =>
      (∃ kind name, c.Derives kind name ∧ ¬ c'.Derives kind name ∧
        ApiRequest.Concerns kind.collection ⟨c.key.ns, name⟩ r) ∧
      (Unbroken c.key.ns → Unbroken c.key.name → ∀ kind name, c'.Derives kind name →
        r.target.path ≠ kind.collection.objectPath ⟨c.key.ns, name⟩)) ∧
    ∀ {σ : Type} (h : Handler surroundings σ) (domain : String) (s : σ),
      (∀ x ∈ Task.transcript h (ResolvedTargets.ofCluster domain c.key) s, c.FindsOwn x) →
      ∀ x ∈ Task.transcript h (ResolvedTargets.ofCluster domain c.key) s,
        ∃ kind name, c.Derives kind name ∧ ¬ c'.Derives kind name ∧
          x.1.object? = some (kind, ⟨c.key.ns, name⟩) := by
  have hapart (kind : ObjectKind) (name : String) (h : c.Derives kind name) :
      ¬ c'.Derives kind name :=
    fun h' => hne (h.cluster_inj h')
  refine ⟨hapart, fun handler => ?_, fun h domain s hfinds x hx => ?_⟩
  · refine (c.asks_provision handler).mono ?_
    rintro r ⟨kind, name, hderives, hconcerns⟩
    exact ⟨⟨kind, name, hderives, hapart kind name hderives, hconcerns⟩,
      fun hns hc kind' name' h' => hderives.path_ne hne hns hc hconcerns h'⟩
  · obtain ⟨kind, name, hderives, hobject⟩ := (c.confined_lookup domain).transcript h s hfinds x hx
    exact ⟨kind, name, hderives, hapart kind name hderives, hobject⟩

/-- A cluster that is called like the stateful set of the encrypted one. -/
def namedAfterSet : Cluster where
  metadata := { name := some "c-ss", ns := some "n" }
  spec := {}

open WorkloadPlan (encryptedCluster encryptedPlan encryptedInventory stampedFrom_encryptedPlan)

theorem kept_apart_nested :
    encryptedCluster.metadata.anyName ≠ namedAfterSet.metadata.anyName ∧
      ¬ namedAfterSet.Derives .pod "c-ss-0" ∧ Unbroken encryptedCluster.key.ns ∧
      Unbroken encryptedCluster.key.name ∧
      ((ApiServer.provision encryptedCluster none).run.Asks fun (r : ApiRequest) =>
        r.target.path ≠ "/apis/apps/v1/namespaces/n/statefulsets/c-ss-ss") ∧
      (∀ x ∈ Task.transcript encryptedInventory.store
          (ResolvedTargets.ofCluster "local" encryptedCluster.key) (),
        encryptedCluster.FindsOwn x ∧ x.1 ≠ .getSecret ⟨"n", "c-ss-management-secret"⟩) := by
  have hne : encryptedCluster.metadata.anyName ≠ namedAfterSet.metadata.anyName := by decide
  have hns : Unbroken encryptedCluster.key.ns := by decide
  have hname : Unbroken encryptedCluster.key.name := by decide
  have hfinds : ∀ x ∈ Task.transcript encryptedInventory.store
      (ResolvedTargets.ofCluster "local" encryptedCluster.key) (), encryptedCluster.FindsOwn x := by
    refine Program.forall_transcript (fun r s => ?_) _ ()
    cases r with
    | getPod key => exact ⟨encryptedPlan, none, 0, rfl, stampedFrom_encryptedPlan⟩
    | _ => trivial
  obtain ⟨hderived, hprovision, hlookup⟩ := kept_apart hne
  refine ⟨hne, hderived .pod "c-ss-0" (.pod 0), hns, hname, ?_, fun x hx =>
    ⟨hfinds x hx, fun hsecret => ?_⟩⟩
  · exact (hprovision none).mono fun r hr => hr.2 hns hname .statefulSet "c-ss-ss" .statefulSet
  · obtain ⟨kind, name, -, hother, hobject⟩ :=
      hlookup encryptedInventory.store "local" () hfinds x hx
    rw [hsecret] at hobject
    cases hobject
    exact hother .managementSecret

end Cluster

end BrokerFleet
