import BrokerFleet.Proofs.Cluster.Names
import BrokerFleet.Proofs.Cluster.Readiness
import BrokerFleet.Proofs.Text.Sorting

/-! # What a summary lists

A summary lists the name of every observed pod once for each pod that has it, among the ready ones
or among the starting ones, and the pods of the planned ordinals that no observed name stands for.
Each list is in order. Nothing else is listed, so these rules tell the summary. -/

namespace BrokerFleet.Projection

variable {names : ClusterNames} {size : Int32} {pods : List Pod} {summary : PodSummary}

/-- The name that a pod is listed under. -/
def podName (p : Pod) : String := p.metadata.anyName

/-- A summary that lists each observed pod where it belongs, and each planned ordinal that no
observed pod stands for. -/
structure Accounts (names : ClusterNames) (size : Int32) (pods : List Pod) (summary : PodSummary) :
    Prop where
  ready : summary.ready.Perm ((pods.filter Pod.isReady).map podName)
  starting : summary.starting.Perm ((pods.filter fun p => !p.isReady).map podName)
  /-- A planned pod that does not exist is listed once. -/
  stopped_once : summary.stopped.Nodup
  stopped : ∀ name, name ∈ summary.stopped ↔
    ∃ i < (max size.toInt 0).toNat, names.pod i = name ∧ ∀ p ∈ pods, ordinal? names p ≠ some i
  ready_ordered : summary.ready.Pairwise (· ≤ ·)
  starting_ordered : summary.starting.Pairwise (· ≤ ·)
  stopped_ordered : summary.stopped.Pairwise (· ≤ ·)

namespace Accounts

/-- Every observed pod is listed, with its name, exactly once: as ready or as starting. -/
theorem observed_perm (h : Accounts names size pods summary) :
    (summary.ready ++ summary.starting).Perm (pods.map podName) := by
  refine (h.ready.append h.starting).trans ?_
  rw [← List.map_append]
  exact (List.filter_append_perm Pod.isReady pods).map podName

end Accounts

/-! ## Planned pods -/

theorem pod_injective (names : ClusterNames) : Function.Injective names.pod := by
  intro i j h
  have hlist := congrArg String.toList h
  rw [ClusterNames.toList_pod, ClusterNames.toList_pod, List.append_cancel_left_eq] at hlist
  exact Text.toString_inj (List.cons.inj hlist).2

theorem lt_of_planned {i : ℕ} (hi : i < size.toInt.toNat) : i < 4294967296 := by
  have hsize := Int32.toInt_lt size
  omega

/-- A planned pod that exists under its own name is not vacant. -/
theorem ordinal?_of_podName {p : Pod} {i : ℕ} (hi : i < size.toInt.toNat)
    (hp : podName p = names.pod i) :
    ordinal? names p = some i := by
  unfold podName at hp
  rw [ordinal?, hp]
  exact podOrdinal?_append (lt_of_planned hi)

theorem nodup_vacant_pods : ((vacant names size pods).map names.pod).Nodup :=
  (List.nodup_range.filter _).map (pod_injective names)

theorem mem_vacant_pods {name : String} :
    name ∈ (vacant names size pods).map names.pod ↔
      ∃ i < (max size.toInt 0).toNat, names.pod i = name ∧
      ∀ p ∈ pods, ordinal? names p ≠ some i := by
  have hsize : (max size.toInt 0).toNat = size.toInt.toNat := by omega
  simp only [List.mem_map, mem_vacant, hsize, and_assoc]
  exact exists_congr fun i => and_congr_right fun _ => and_comm

/-! ## The summary -/

/-- The summary is told by what it lists: the observed pods by their readiness, as often as they are
observed, and the planned pods that no observed name stands for, once each, all in order. So no
observed name is listed as stopped. -/
theorem summarize_accounts (names : ClusterNames) (size : Int32) (pods : List Pod) :
    (∀ summary, Accounts names size pods summary ↔ summary = summarize names size pods) ∧
      ((summarize names size pods).ready ++ (summarize names size pods).starting).Perm
        (pods.map podName) ∧
      ∀ p ∈ pods, podName p ∉ (summarize names size pods).stopped := by
  have hsummary : Accounts names size pods (summarize names size pods) := {
    ready := Text.sorted_perm _
    starting := Text.sorted_perm _
    stopped_once := (Text.sorted_perm _).nodup_iff.mpr nodup_vacant_pods
    stopped := fun name => (Text.sorted_perm _).mem_iff.trans mem_vacant_pods
    ready_ordered := Text.pairwise_sorted _
    starting_ordered := Text.pairwise_sorted _
    stopped_ordered := Text.pairwise_sorted _ }
  refine ⟨fun summary => ⟨fun h => ?_, fun h => h ▸ hsummary⟩, hsummary.observed_perm,
    fun p hp hstopped => ?_⟩
  · -- lists in order that hold the same names as often are the same
    have hready : summary.ready = (summarize names size pods).ready :=
      Text.eq_sorted_iff.mpr ⟨h.ready_ordered, h.ready⟩
    have hstarting : summary.starting = (summarize names size pods).starting :=
      Text.eq_sorted_iff.mpr ⟨h.starting_ordered, h.starting⟩
    have hstopped : summary.stopped = (summarize names size pods).stopped := by
      refine Text.eq_sorted_iff.mpr ⟨h.stopped_ordered, ?_⟩
      refine (List.perm_ext_iff_of_nodup h.stopped_once nodup_vacant_pods).mpr fun name => ?_
      rw [h.stopped, mem_vacant_pods]
    cases summary
    cases hready
    cases hstarting
    cases hstopped
    rfl
  · obtain ⟨i, hi, hname, hnone⟩ := (hsummary.stopped (podName p)).mp hstopped
    have hplanned : i < size.toInt.toNat := by omega
    exact hnone p hp (ordinal?_of_podName hplanned hname.symm)

-- a name that writes an ordinal with zeros stands for it
example : vacant (ClusterNames.ofName "broker") 2 [readyPod "broker-ss-001"] = [0] := by decide

end BrokerFleet.Projection
