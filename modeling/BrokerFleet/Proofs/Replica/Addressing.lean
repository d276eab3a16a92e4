import BrokerFleet.Proofs.Cluster.Names
import BrokerFleet.Proofs.Replica.Inventory
import Mathlib.Data.List.Nodup
import Mathlib.Data.List.Perm.Basic

/-! # Where replicas are found

Every planned replica of a selected cluster is found under its domain name, as a target if its pod
exists and as unavailable if not, as often as its cluster is selected. Domain names tell replicas
apart, so a replica is found twice only if its cluster is selected twice. -/

namespace BrokerFleet

namespace ResolvedTargets

def targetNames (r : ResolvedTargets) : List String := r.targets.map (·.fqdn)

def unavailableNames (r : ResolvedTargets) : List String := r.unavailable.map (·.fqdn)

/-- The domain names of all replicas that were found. -/
def addresses (r : ResolvedTargets) : List String := r.targetNames ++ r.unavailableNames

theorem targetNames_joinAll (rs : List ResolvedTargets) :
    (joinAll rs).targetNames = rs.flatMap targetNames := by
  induction rs with
  | nil => rfl
  | cons r rest ih =>
    rw [List.flatMap_cons, ← ih]
    exact List.map_append

theorem unavailableNames_joinAll (rs : List ResolvedTargets) :
    (joinAll rs).unavailableNames = rs.flatMap unavailableNames := by
  induction rs with
  | nil => rfl
  | cons r rest ih =>
    rw [List.flatMap_cons, ← ih]
    exact List.map_append

end ResolvedTargets

namespace Inventory

open ResolvedTargets

variable {σ : Type} {h : Handler surroundings σ} {Q : σ → Prop} {inv : Inventory}
  {domain ns : String}

def fqdns (domain : String) (cluster : ObjectKey) (ordinals : List Nat) : List String :=
  ordinals.map fun i => (ClusterNames.ofName cluster.name).fqdn i cluster.ns domain

def planned (inv : Inventory) (cluster : ObjectKey) : List Nat :=
  List.range (inv.replicaCount cluster)

def hasPod (inv : Inventory) (cluster : ObjectKey) (ordinal : Nat) : Bool :=
  (inv.pod ⟨cluster.ns, (ClusterNames.ofName cluster.name).pod ordinal⟩).isSome

/-! ## Under which names -/

section Names

variable {names : ResolvedTargets → List String} {p : ObjectKey → Nat → Bool}
  (hjoin : ∀ rs, names (joinAll rs) = rs.flatMap names)
  (hreplica : ∀ cluster i, names (inv.replica domain cluster i) =
    fqdns domain cluster ([i].filter (p cluster)))

include hjoin hreplica

/-- The names of some replicas of a cluster, if it can be told of each whether it is one of them. -/
theorem names_replicas (cluster : ObjectKey) :
    names (inv.replicas domain cluster) = fqdns domain cluster
      ((inv.planned cluster).filter (p cluster)) := by
  rw [replicas, hjoin, List.flatMap_map]
  simp only [hreplica, fqdns]
  rw [← List.map_flatMap, ← List.filter_flatMap, List.flatMap_singleton', planned]

theorem names_resolve (ns : String) (selector : ClusterSelector) :
    names (inv.resolve domain ns selector) =
      (inv.selected ns selector).flatMap fun cluster =>
        fqdns domain cluster ((inv.planned cluster).filter (p cluster)) := by
  rw [resolve, hjoin, List.flatMap_map]
  simp only [names_replicas hjoin hreplica]

end Names

theorem targetNames_replica (cluster : ObjectKey) (i : Nat) :
    (inv.replica domain cluster i).targetNames = fqdns domain cluster
    ([i].filter (inv.hasPod cluster)) := by
  unfold replica
  cases hpod : inv.pod ⟨cluster.ns, (ClusterNames.ofName cluster.name).pod i⟩ <;>
    simp [hpod, hasPod, fqdns, targetNames]

theorem unavailableNames_replica (cluster : ObjectKey) (i : Nat) :
    (inv.replica domain cluster i).unavailableNames =
      fqdns domain cluster ([i].filter fun i => !inv.hasPod cluster i) := by
  unfold replica
  cases hpod : inv.pod ⟨cluster.ns, (ClusterNames.ofName cluster.name).pod i⟩ <;>
    simp [hpod, hasPod, fqdns, unavailableNames]

theorem targetNames_resolve (ns : String) (selector : ClusterSelector) :
    (inv.resolve domain ns selector).targetNames =
      (inv.selected ns selector).flatMap fun cluster =>
        fqdns domain cluster ((inv.planned cluster).filter (inv.hasPod cluster)) :=
  names_resolve targetNames_joinAll targetNames_replica ns selector

theorem unavailableNames_resolve (ns : String) (selector : ClusterSelector) :
    (inv.resolve domain ns selector).unavailableNames =
      (inv.selected ns selector).flatMap fun cluster =>
        fqdns domain cluster ((inv.planned cluster).filter fun i => !inv.hasPod cluster i) :=
  names_resolve (p := fun cluster i => !inv.hasPod cluster i) unavailableNames_joinAll
    unavailableNames_replica ns selector

/-- A target stands for a planned replica of a selected cluster, and has its domain name. -/
theorem of_mem_targets_resolve {selector : ClusterSelector} {t : ReplicaTarget}
    (ht : t ∈ (inv.resolve domain ns selector).targets) :
    t.cluster ∈ inv.selected ns selector ∧ t.ordinal ∈ inv.planned t.cluster ∧
      t.fqdn = (ClusterNames.ofName t.cluster.name).fqdn t.ordinal t.cluster.ns domain := by
  obtain ⟨hcluster, hordinal, hreplica⟩ := mem_targets_resolve.mp ht
  obtain ⟨pod, -, heq⟩ := mem_targets_replica.mp hreplica
  exact ⟨hcluster, List.mem_range.mpr hordinal, congrArg ReplicaTarget.fqdn heq⟩

/-- All planned replicas of the selected clusters are found, each as often as its cluster is
selected. -/
theorem addresses_perm (domain ns : String) (selector : ClusterSelector) :
    (inv.resolve domain ns selector).addresses.Perm
      ((inv.selected ns selector).flatMap fun cluster =>
        fqdns domain cluster (inv.planned cluster)) := by
  rw [addresses, targetNames_resolve, unavailableNames_resolve]
  refine (List.flatMap_append_perm _ _ _).trans ?_
  refine List.Perm.flatMap_left _ fun cluster _ => ?_
  rw [fqdns, fqdns, ← List.map_append]
  exact (List.filter_append_perm _ _).map _

/-! ## How often -/

/-- The clusters of a namespace are listed as such, each of them once. -/
structure ListsOnce (inv : Inventory) (ns : String) : Prop where
  within : ∀ c ∈ inv.clusters ns, c.key.ns = ns
  distinct : ((inv.clusters ns).map Cluster.key).Nodup

theorem ns_of_mem_selected (hlists : inv.ListsOnce ns) {selector : ClusterSelector}
    {cluster : ObjectKey} (hcluster : cluster ∈ inv.selected ns selector) : cluster.ns = ns := by
  cases selector with
  | all =>
    obtain ⟨c, hc, rfl⟩ := List.mem_map.mp hcluster
    exact hlists.within c hc
  | named names =>
    obtain ⟨n, -, rfl⟩ := List.mem_map.mp hcluster
    rfl

theorem mem_fqdns_planned {cluster : ObjectKey} {fqdn : String} :
    fqdn ∈ fqdns domain cluster (inv.planned cluster) ↔ ∃ i < inv.replicaCount cluster,
      (ClusterNames.ofName cluster.name).fqdn i cluster.ns domain = fqdn := by
  simp [fqdns, planned]

theorem nodup_fqdns_planned (domain : String) (cluster : ObjectKey) :
    (fqdns domain cluster (inv.planned cluster)).Nodup := by
  refine List.nodup_range.map fun i j hij => ?_
  exact ((ClusterNames.fqdn_inj cluster.ns domain).mp hij).2

/-- Clusters of a namespace that have replicas share a domain name only with themselves. -/
theorem disjoint_fqdns_iff {cluster cluster' : ObjectKey} (hns : cluster.ns = cluster'.ns) :
    (fqdns domain cluster (inv.planned cluster)).Disjoint
    (fqdns domain cluster' (inv.planned cluster')) ↔
      (0 < inv.replicaCount cluster → 0 < inv.replicaCount cluster' → cluster ≠ cluster') := by
  constructor
  · rintro hdisjoint hpos - rfl
    exact hdisjoint (mem_fqdns_planned.mpr ⟨0, hpos, rfl⟩) (mem_fqdns_planned.mpr ⟨0, hpos, rfl⟩)
  · intro hne fqdn hmem hmem'
    obtain ⟨i, hi, hfqdn⟩ := mem_fqdns_planned.mp hmem
    obtain ⟨j, hj, hfqdn'⟩ := mem_fqdns_planned.mp hmem'
    rw [← hfqdn', hns] at hfqdn
    obtain ⟨hname, -⟩ := (ClusterNames.fqdn_inj cluster'.ns domain).mp hfqdn
    have heq : cluster = cluster' := by
      cases cluster
      cases cluster'
      cases hns
      cases hname
      rfl
    exact hne (Nat.zero_lt_of_lt hi) (Nat.zero_lt_of_lt hj) heq

theorem nodup_addresses_iff (hlists : inv.ListsOnce ns) (domain : String)
    (selector : ClusterSelector) :
    (inv.resolve domain ns selector).addresses.Nodup ↔
      ((inv.selected ns selector).filter fun cluster => 0 < inv.replicaCount cluster).Nodup := by
  rw [(addresses_perm domain ns selector).nodup_iff, List.nodup_flatMap,
    and_iff_right fun cluster _ => nodup_fqdns_planned domain cluster]
  refine Iff.trans (List.Pairwise.iff_of_mem fun {cluster cluster'} hcluster hcluster' => ?_)
    List.pairwise_filter.symm
  have hns := (ns_of_mem_selected hlists hcluster).trans (ns_of_mem_selected hlists hcluster').symm
  rw [decide_eq_true_iff, decide_eq_true_iff]
  exact disjoint_fqdns_iff hns

/-- No cluster that has replicas is selected twice, unless one is declared twice. -/
theorem nodup_selected_iff (hlists : inv.ListsOnce ns) (names : List String) :
    ((inv.selected ns (.ofNames names)).filter fun cluster => 0 < inv.replicaCount cluster).Nodup ↔
      ClusterSelector.ofNames names = .all ∨
      (names.filter fun n => 0 < inv.replicaCount ⟨ns, n⟩).Nodup := by
  unfold ClusterSelector.ofNames
  split
  · exact iff_of_true (hlists.distinct.filter _) (.inl rfl)
  · have hinjective : Function.Injective fun n => (⟨ns, n⟩ : ObjectKey) :=
      fun _ _ h => (ObjectKey.mk.inj h).2
    simp only [selected, List.filter_map, List.nodup_map_iff hinjective, reduceCtorEq, false_or]
    rfl

/-- What a declared list of names comes to in a store that can be read: each planned replica of each
selected cluster that has a stateful set is found, as a target exactly if its pod exists, and under
a domain name of its own exactly if no cluster with replicas is declared twice. -/
theorem replicas_found (hserved : inv.ServedBy h Q) (hlists : inv.ListsOnce ns) (domain : String)
    (names : List String) :
    let selector := ClusterSelector.ofNames names
    let clusters := inv.selected ns selector
    ∃ found,
      (∀ s, Q s → Task.outcome h (ResolvedTargets.resolve domain ns selector) s = .ok found) ∧
      (∀ t ∈ found.targets, t.cluster ∈ clusters ∧ t.ordinal ∈ inv.planned t.cluster ∧
        t.fqdn = (ClusterNames.ofName t.cluster.name).fqdn t.ordinal t.cluster.ns domain) ∧
      found.targetNames = (clusters.flatMap fun cluster =>
        fqdns domain cluster ((inv.planned cluster).filter (inv.hasPod cluster))) ∧
      found.unavailableNames = (clusters.flatMap fun cluster =>
        fqdns domain cluster ((inv.planned cluster).filter fun i => !inv.hasPod cluster i)) ∧
      found.addresses.Perm (clusters.flatMap fun cluster =>
        fqdns domain cluster (inv.planned cluster)) ∧
      (found.addresses.Nodup ↔
        selector = .all ∨ (names.filter fun n => 0 < inv.replicaCount ⟨ns, n⟩).Nodup) := by
  intro selector clusters
  refine ⟨inv.resolve domain ns selector,
    fun s hs => (yields_resolve hserved domain ns selector s hs).1,
    fun t ht => of_mem_targets_resolve ht, targetNames_resolve ns selector,
    unavailableNames_resolve ns selector, addresses_perm domain ns selector, ?_⟩
  exact (nodup_addresses_iff hlists domain selector).trans (nodup_selected_iff hlists names)

/-! ## A cluster of two replicas -/

/-- A namespace with a cluster of two replicas, one of which has no pod. -/
def halfStarted : Inventory where
  clusters ns := [{ metadata := { name := some "broker", ns := some ns }, spec := {} }]
  statefulSet key :=
    if key.name = "broker-ss" then some { spec := some { replicas := some 2 } } else none
  pod key := if key.name = "broker-ss-0" then some {} else none
  secret _ := none

theorem listsOnce_halfStarted (ns : String) : halfStarted.ListsOnce ns where
  within c hc := by
    obtain rfl := List.mem_singleton.mp hc
    rfl
  distinct := List.nodup_singleton _

theorem replicas_found_halfStarted :
    halfStarted.ServedBy halfStarted.store (fun _ => True) ∧ halfStarted.ListsOnce "prod" ∧
      ∃ found, Task.outcome halfStarted.store
        (ResolvedTargets.resolve "cluster.local" "prod" (.ofNames ["*"])) () =
          .ok found ∧
        found.targetNames = ["broker-ss-0.broker-hdls-svc.prod.svc.cluster.local"] ∧
        found.unavailableNames = ["broker-ss-1.broker-hdls-svc.prod.svc.cluster.local"] ∧
        found.addresses.Nodup := by
  obtain ⟨found, hfound, -, htargets, hunavailable, -, honce⟩ :=
    replicas_found (servedBy_store halfStarted) (listsOnce_halfStarted "prod") "cluster.local" ["*"]
  refine ⟨servedBy_store _, listsOnce_halfStarted _, found, hfound () trivial, ?_, ?_,
    honce.mpr (.inl rfl)⟩
  · rw [htargets]
    decide
  · rw [hunavailable]
    decide

/-- A declaration without violations that names a cluster twice, and its replicas found twice. -/
theorem replica_found_twice :
    ({ addressName := "orders", applyToClusterNames := ["broker", "broker"] } :
      AddressSpec).violations = [] ∧
      ∃ found, Task.outcome halfStarted.store
          (ResolvedTargets.resolve "cluster.local" "prod" (.ofNames ["broker", "broker"]))
            () = .ok found ∧
        found.targetNames = ["broker-ss-0.broker-hdls-svc.prod.svc.cluster.local",
          "broker-ss-0.broker-hdls-svc.prod.svc.cluster.local"] := by
  refine ⟨by decide, _, rfl, by decide⟩

end Inventory

end BrokerFleet
