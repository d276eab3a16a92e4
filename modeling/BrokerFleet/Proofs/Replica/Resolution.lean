import BrokerFleet.Proofs.Program.Task
import BrokerFleet.Proofs.Store.Reading
import BrokerFleet.Replica.Resolve

/-! # Finding replicas

Finding replicas only reads. What it comes to are planned replicas of the selected clusters. -/

namespace BrokerFleet

theorem Credentials.reading_variableValue (ns : String) (v : EnvVar) :
    Reading (variableValue ns v).run := by
  unfold variableValue
  split
  · exact .pure _
  · exact .pure _
  · exact (Reading.getSecret _).bind fun _ => .pure _

theorem Credentials.reading_addVariable (ns : String) (settled : Bool) (c : Credentials)
    (v : EnvVar) :
    Reading (addVariable ns settled c v).run := by
  have hvalue := reading_variableValue ns v
  unfold addVariable
  split
  · exact hvalue.bind fun _ => .pure _
  · split
    · exact hvalue.bind fun _ => .pure _
    · split
      · refine hvalue.bind fun value => ?_
        split <;> exact .pure _
      · exact .pure _

theorem Credentials.reading_resolve (ns : String) (names : ClusterNames) (pod : Pod) :
    Reading (resolve ns names pod).run :=
  (Reading.getSecret _).bind fun _ => .foldlM (reading_addVariable ns _) _ _

theorem ClusterSelector.reading_clusters (ns : String) (s : ClusterSelector) :
    Reading (s.clusters ns).run := by
  cases s with
  | all => exact (Reading.listClusters _).bind fun _ => .pure _
  | named names => exact .pure _

namespace ResolvedTargets

theorem reading_replica (domain : String) (cluster : ObjectKey) (ordinal : Nat) :
    Reading (replica domain cluster ordinal).run := by
  refine (Reading.getPod _).bind fun pod => ?_
  cases pod with
  | none => exact .pure _
  | some pod => exact (Credentials.reading_resolve _ _ pod).bind fun _ => .pure _

theorem reading_ofCluster (domain : String) (cluster : ObjectKey) :
    Reading (ofCluster domain cluster).run := by
  refine (Reading.getStatefulSet _).bind fun set => ?_
  cases set with
  | none => exact .pure _
  | some set => exact .map _ (.mapM (reading_replica domain cluster) _)

/-- Finding replicas asks for nothing but readings, and fails exactly when one of them does. -/
theorem reading_resolve (domain ns : String) (s : ClusterSelector) :
    Reading (resolve domain ns s).run :=
  (s.reading_clusters ns).bind fun clusters => .map _ (.mapM (reading_ofCluster domain) clusters)

/-! ## What is found -/

theorem mem_targets_joinAll {rs : List ResolvedTargets} {t : ReplicaTarget} :
    t ∈ (joinAll rs).targets ↔ ∃ r ∈ rs, t ∈ r.targets := by
  induction rs with
  | nil => simp [joinAll]
  | cons r rest ih =>
    have hcons : (joinAll (r :: rest)).targets = r.targets ++ (joinAll rest).targets := rfl
    rw [hcons, List.mem_append, ih]
    simp

section Found

variable {σ : Type} {h : Handler surroundings σ} {domain ns : String} {cluster : ObjectKey} {s : σ}
  {found : ResolvedTargets} {t : ReplicaTarget}

theorem eq_of_replica_eq_ok {ordinal : Nat}
    (hok : Task.outcome h (replica domain cluster ordinal) s = .ok found) (ht : t ∈ found.targets) :
    t.cluster = cluster ∧ t.ordinal = ordinal := by
  obtain ⟨pod, -, hpod⟩ := Task.outcome_bind_eq_ok _ hok
  cases pod with
  | none =>
    cases hpod
    cases ht
  | some pod =>
    obtain ⟨credentials, -, htarget⟩ := Task.outcome_bind_eq_ok _ hpod
    cases htarget
    obtain rfl := List.mem_singleton.mp ht
    exact ⟨rfl, rfl⟩

theorem lt_of_ofCluster_eq_ok (hok : Task.outcome h (ofCluster domain cluster) s = .ok found)
    (ht : t ∈ found.targets) : t.cluster = cluster ∧ t.ordinal < 2147483648 := by
  obtain ⟨set, -, hset⟩ := Task.outcome_bind_eq_ok _ hok
  cases set with
  | none =>
    cases hset
    cases ht
  | some set =>
    obtain ⟨rs, hrs, rfl⟩ := Task.outcome_map_eq_ok hset
    obtain ⟨r, hr, htr⟩ := mem_targets_joinAll.mp ht
    obtain ⟨ordinal, hordinal, s', hreplica⟩ := Task.exists_of_mapM_eq_ok hrs r hr
    obtain ⟨hcluster, rfl⟩ := eq_of_replica_eq_ok hreplica htr
    have hplanned : t.ordinal < set.replicaCount := List.mem_range.mp hordinal
    have hsize : ((set.spec.bind (·.replicas)).getD 0).toInt < 2147483648 := Int32.toInt_lt _
    exact ⟨hcluster, Nat.lt_of_lt_of_le hplanned (by unfold StatefulSet.replicaCount; omega)⟩

/-- A target that is found stands for a replica of a cluster that the selector applies to. -/
theorem applies_of_resolve_eq_ok {selector : ClusterSelector}
    (hok : Task.outcome h (resolve domain ns selector) s = .ok found) (ht : t ∈ found.targets) :
    selector.appliesTo t.cluster.name = true ∧ t.ordinal < 2147483648 := by
  obtain ⟨clusters, hclusters, hrest⟩ := Task.outcome_bind_eq_ok _ hok
  obtain ⟨rs, hrs, rfl⟩ := Task.outcome_map_eq_ok hrest
  obtain ⟨r, hr, htr⟩ := mem_targets_joinAll.mp ht
  obtain ⟨cluster, hcluster, s', hfound⟩ := Task.exists_of_mapM_eq_ok hrs r hr
  obtain ⟨rfl, hordinal⟩ := lt_of_ofCluster_eq_ok hfound htr
  refine ⟨?_, hordinal⟩
  cases selector with
  | all => rfl
  | named names =>
    cases hclusters
    obtain ⟨name, hname, hkey⟩ := List.mem_map.mp hcluster
    simpa [ClusterSelector.appliesTo, ← hkey] using hname

end Found

end ResolvedTargets

end BrokerFleet
