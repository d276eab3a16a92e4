import BrokerFleet.Proofs.Cluster.Projection

/-! # When a cluster counts as deployed

A cluster counts as deployed once as many pods are ready as are planned and none is starting. Pods
are counted wherever they stand: one outside of the plan fills in for a planned one that does not
exist. Only where every pod has a planned place of its own does the count tell that all places are
taken. -/

namespace BrokerFleet.Projection

variable {names : ClusterNames} {size : Int32} {pods : List Pod} {now : String} {c : Cluster}
  {previous : Option ClusterStatus} {v : Condition} {error : Option String} {o : Observed}

/-! ## Places -/

def ordinal? (names : ClusterNames) (p : Pod) : Option ℕ :=
  podOrdinal? p.metadata.anyName names.statefulSet

/-- The planned ordinals that some pod has. -/
def taken (names : ClusterNames) (size : Int32) (pods : List Pod) : List ℕ :=
  (List.range size.toInt.toNat).filter fun i => (pods.filterMap (ordinal? names)).contains i

/-- The planned ordinals that no pod has. -/
def vacant (names : ClusterNames) (size : Int32) (pods : List Pod) : List ℕ :=
  (List.range size.toInt.toNat).filter fun i => !(pods.filterMap (ordinal? names)).contains i

theorem mem_ordinals {i : ℕ} :
    i ∈ pods.filterMap (ordinal? names) ↔ ∃ p ∈ pods, ordinal? names p = some i :=
      List.mem_filterMap

theorem mem_vacant {i : ℕ} :
    i ∈ vacant names size pods ↔
      i < size.toInt.toNat ∧ ∀ p ∈ pods, ordinal? names p ≠ some i := by
  simp [vacant]

theorem length_taken_add_length_vacant (names : ClusterNames) (size : Int32) (pods : List Pod) :
    (taken names size pods).length + (vacant names size pods).length = size.toInt.toNat := by
  have hsplit := List.length_eq_length_filter_add (l := List.range size.toInt.toNat)
    fun i => (pods.filterMap (ordinal? names)).contains i
  rw [List.length_range] at hsplit
  exact hsplit.symm

/-- The pods have planned places, each of them its own. -/
structure InPlace (names : ClusterNames) (size : Int32) (pods : List Pod) : Prop where
  planned : ∀ p ∈ pods, ∃ i, ordinal? names p = some i ∧ i < size.toInt.toNat
  distinct : (pods.map (ordinal? names)).Nodup

theorem InPlace.ordinals_nodup (h : InPlace names size pods) :
    (pods.filterMap (ordinal? names)).Nodup := by
  have hsome : (pods.filterMap (ordinal? names)).map some = pods.map (ordinal? names) := by
    rw [List.map_filterMap, ← List.filterMap_eq_map]
    refine List.filterMap_congr fun p hp => ?_
    obtain ⟨i, hi, -⟩ := h.planned p hp
    simp [hi]
  exact List.Nodup.of_map some (hsome ▸ h.distinct)

theorem InPlace.length_ordinals (h : InPlace names size pods) :
    (pods.filterMap (ordinal? names)).length = pods.length := by
  rw [List.length_filterMap_eq_countP]
  refine List.countP_eq_length.mpr fun p hp => ?_
  obtain ⟨i, hi, -⟩ := h.planned p hp
  simp [hi]

/-- Enough pods, each in a planned place of its own, leave no place vacant. -/
theorem InPlace.vacant_eq_nil (h : InPlace names size pods) (hsize : size.toInt ≤ pods.length) :
    vacant names size pods = [] := by
  have hsubset : pods.filterMap (ordinal? names) ⊆ List.range size.toInt.toNat := by
    intro i hi
    obtain ⟨p, hp, hpi⟩ := mem_ordinals.mp hi
    obtain ⟨j, hpj, hj⟩ := h.planned p hp
    rw [hpi] at hpj
    obtain rfl := Option.some.inj hpj
    exact List.mem_range.mpr hj
  have hlength : (List.range size.toInt.toNat).length ≤
      (pods.filterMap (ordinal? names)).length := by
    rw [List.length_range, h.length_ordinals]
    omega
  have hperm := (h.ordinals_nodup.subperm hsubset).perm_of_length_le hlength
  refine List.filter_eq_nil_iff.mpr fun i hi => ?_
  simpa using hperm.mem_iff.mpr hi

/-! ## The summary -/

theorem stopped_summarize :
    (summarize names size pods).stopped = Text.sorted
    ((vacant names size pods).map names.pod) := rfl

theorem length_stopped_summarize :
    (summarize names size pods).stopped.length = (vacant names size pods).length := by
  rw [stopped_summarize, (Text.sorted_perm _).length_eq, List.length_map]

theorem stopped_eq_nil_iff :
    (summarize names size pods).stopped = [] ↔ vacant names size pods = [] := by
  rw [← List.length_eq_zero_iff, length_stopped_summarize, List.length_eq_zero_iff]

theorem starting_eq_nil_iff :
    (summarize names size pods).starting = [] ↔ ∀ p ∈ pods, p.isReady = true := by
  have hperm : (summarize names size pods).starting.Perm _ := Text.sorted_perm _
  constructor
  · intro hnil p hp
    rw [hnil, List.nil_perm, List.map_eq_nil_iff, List.filter_eq_nil_iff] at hperm
    simpa using hperm p hp
  · intro hready
    have hnone : pods.filter (fun p => !p.isReady) = [] :=
      List.filter_eq_nil_iff.mpr fun p hp => by simp [hready p hp]
    rw [hnone] at hperm
    exact hperm.eq_nil

theorem length_ready_summarize :
    (summarize names size pods).ready.length = (pods.filter Pod.isReady).length := by
  have hperm : (summarize names size pods).ready.Perm _ := Text.sorted_perm _
  rw [hperm.length_eq, List.length_map]

/-! ## The condition -/

theorem isTrue_deployed :
    (deployed now size (summarize names size pods) error).isTrue = true ↔
      error = none ∧ (∀ p ∈ pods, p.isReady = true) ∧ size.toInt ≤ pods.length := by
  cases error with
  | some message => simp [deployed, Condition.stated, Condition.isTrue]
  | none =>
    have hcount : (∀ p ∈ pods, p.isReady = true) → pods.filter Pod.isReady = pods :=
      List.filter_eq_self.mpr
    simp only [deployed, starting_eq_nil_iff, length_ready_summarize, true_and]
    split
    · next hdeployed =>
      refine iff_of_true rfl ⟨hdeployed.2, ?_⟩
      simpa [hcount hdeployed.2] using hdeployed.1
    · next hwaiting =>
      refine iff_of_false (by simp [Condition.stated, Condition.isTrue]) ?_
      rintro ⟨hready, hsize⟩
      exact hwaiting ⟨by simpa [hcount hready] using hsize, hready⟩

/-- Whether a status reports that the cluster is deployed. -/
def reportsDeployed (s : ClusterStatus) : Bool :=
  (Condition.find? Condition.deployed s.conditions).elim false Condition.isTrue

theorem reportsDeployed_project_eq (now : String) (c : Cluster) (previous : Option ClusterStatus)
    (v : Condition) (error : Option String) (o : Observed) :
    let size := c.spec.deploymentPlan.size
    reportsDeployed (project now c previous v error o) =
      (deployed now size (summarize (ClusterNames.ofCluster c) size o.pods) error).isTrue := by
  intro size
  have htype := type_deployed now size (summarize (ClusterNames.ofCluster c) size o.pods) error
  obtain ⟨e, he, huntimed⟩ := find?_deployed htype now c.generation previous (v := v)
  have hfound : reportsDeployed (project now c previous v error o) = e.isTrue := by
    simp only [reportsDeployed, project, size, he, Option.elim_some]
  have htrue := Condition.isTrue_of_untimed huntimed
  exact hfound.trans htrue

theorem reportsDeployed_project :
    reportsDeployed (project now c previous v error o) = true ↔
      error = none ∧ (∀ p ∈ o.pods, p.isReady = true) ∧
        c.spec.deploymentPlan.size.toInt ≤ o.pods.length := by
  rw [reportsDeployed_project_eq]
  exact isTrue_deployed

/-- What it says that a cluster is reported as deployed: provisioning went well, every observed pod
is ready, and there are at least as many as planned. That leaves at most as many places vacant as
there are pods that take none, so none if every pod is in a place of its own. -/
theorem deployed_counts_pods (now : String) (c : Cluster) (previous : Option ClusterStatus)
    (v : Condition) (error : Option String) (o : Observed) :
    let names := ClusterNames.ofCluster c
    let size := c.spec.deploymentPlan.size
    let status := project now c previous v error o
    (reportsDeployed status = true ↔
      error = none ∧ (∀ p ∈ o.pods, p.isReady = true) ∧ size.toInt ≤ o.pods.length) ∧
    (status.podStatus.stopped = [] ↔
      ∀ i < size.toInt.toNat, ∃ p ∈ o.pods, ordinal? names p = some i) ∧
    (reportsDeployed status = true →
      status.podStatus.stopped.length + (taken names size o.pods).length ≤ o.pods.length ∧
      (InPlace names size o.pods →
        ∀ i < size.toInt.toNat, ∃ p ∈ o.pods, p.isReady = true ∧ ordinal? names p = some i)) := by
  intro names size status
  have htaken (hvacant : vacant names size o.pods = []) {i : ℕ} (hi : i < size.toInt.toNat) :
      ∃ p ∈ o.pods, ordinal? names p = some i := by
    by_contra hnone
    have hmem : i ∈ vacant names size o.pods :=
      mem_vacant.mpr ⟨hi, fun p hp hpi => hnone ⟨p, hp, hpi⟩⟩
    rw [hvacant] at hmem
    cases hmem
  refine ⟨reportsDeployed_project, ?_, fun hreported => ?_⟩
  · rw [show status.podStatus = summarize names size o.pods from rfl, stopped_eq_nil_iff]
    constructor
    · intro hvacant i hi
      exact htaken hvacant hi
    · intro hall
      refine List.eq_nil_iff_forall_not_mem.mpr fun i hi => ?_
      obtain ⟨hlt, hnone⟩ := mem_vacant.mp hi
      obtain ⟨p, hp, hpi⟩ := hall i hlt
      exact hnone p hp hpi
  · obtain ⟨-, hready, hsize⟩ : _ ∧ _ ∧ size.toInt ≤ o.pods.length :=
      reportsDeployed_project.mp hreported
    constructor
    · have hlength := length_taken_add_length_vacant names size o.pods
      rw [show status.podStatus = summarize names size o.pods from rfl, length_stopped_summarize]
      omega
    · intro hplace i hi
      obtain ⟨p, hp, hpi⟩ := htaken (hplace.vacant_eq_nil hsize) hi
      exact ⟨p, hp, hready p hp, hpi⟩

/-! ## Pods in place, and a leftover pod -/

def readyPod (name : String) : Pod where
  metadata := { name := some name }
  report := some { phase := none, conditions := some [⟨"Ready", "True"⟩] }

def twoReplicas : Cluster where
  metadata := { name := some "broker", ns := some "test-ns" }
  spec := { deploymentPlan := { size := 2 } }

theorem deployed_counts_pods_inPlace :
    let pods := [readyPod "broker-ss-1", readyPod "broker-ss-0"]
    let valid := Condition.stated "" Condition.valid .yes .validationSucceeded ""
    let names := ClusterNames.ofCluster twoReplicas
    reportsDeployed (project "" twoReplicas none valid none { pods }) = true ∧
      InPlace names 2 pods ∧
      ∀ i < 2, ∃ p ∈ pods, p.isReady = true ∧ ordinal? names p = some i := by
  intro pods valid names
  obtain ⟨hdeployed, -, hcount⟩ := deployed_counts_pods "" twoReplicas none valid none { pods }
  have hreported := hdeployed.mpr ⟨rfl, by decide, by decide⟩
  have hplanned : ∀ p ∈ pods, ∃ i, ordinal? names p = some i ∧ i < 2 := by
    simp only [pods, List.forall_mem_cons, List.not_mem_nil, false_implies, implies_true, and_true]
    exact ⟨⟨1, by decide⟩, ⟨0, by decide⟩⟩
  have hplace : InPlace names 2 pods := ⟨hplanned, by decide⟩
  exact ⟨hreported, hplace, (hcount hreported).2 hplace⟩

/-- A ready pod outside of the plan fills in for a planned one that does not exist. -/
theorem leftover_fills_in :
    let pods := [readyPod "broker-ss-0", readyPod "broker-ss-5"]
    let valid := Condition.stated "" Condition.valid .yes .validationSucceeded ""
    let status := project "" twoReplicas none valid none { pods }
    reportsDeployed status = true ∧ status.isQuiescent = true ∧
      status.podStatus.stopped = ["broker-ss-1"] ∧
      ∀ p ∈ pods, ordinal? (ClusterNames.ofCluster twoReplicas) p ≠ some 1 := by
  intro pods valid status
  have hdeployed : (deployed "" 2 (summarize (ClusterNames.ofCluster twoReplicas) 2 pods)
      none).isTrue :=
    isTrue_deployed.mpr ⟨rfl, by decide, by decide⟩
  have hfresh : ∀ s, (none : Option ClusterStatus) = some s →
      (s.conditions.map Condition.type).Nodup := nofun
  refine ⟨reportsDeployed_project.mpr ⟨rfl, by decide, by decide⟩, ?_, ?_, by decide⟩
  · exact (ready_iff_holds rfl (type_deployed ..) hfresh "" 0).mpr ⟨rfl, hdeployed⟩
  · have hvacant : vacant (ClusterNames.ofCluster twoReplicas) 2 pods = [1] := by decide
    change Text.sorted ((vacant _ 2 pods).map _) = _
    rw [hvacant, List.map_singleton, Text.sorted, List.mergeSort_singleton]
    decide

end BrokerFleet.Projection
