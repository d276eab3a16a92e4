import BrokerFleet.Proofs.Dict.Lookup
import BrokerFleet.Simulation.World

/-! # The world in memory as a store

A request to the world in memory that meets no fault is answered from the objects that it holds, and
changes them. -/

namespace BrokerFleet.Simulation

/-! ## Listings -/

theorem mem_inNamespace {α : Type} {ns : String} {d : Dict ObjectKey α} {a : α} :
    a ∈ inNamespace ns d ↔ ∃ name, d.get? ⟨ns, name⟩ = some a := by
  simp only [inNamespace, Dict.values, Dict.filter, List.mem_map, List.mem_filter, beq_iff_eq]
  constructor
  · rintro ⟨⟨⟨_, name⟩, a⟩, ⟨hmem, rfl⟩, rfl⟩
    exact ⟨name, Dict.mem_entries_iff.mp hmem⟩
  · rintro ⟨name, hget⟩
    exact ⟨(⟨ns, name⟩, a), ⟨Dict.mem_entries_iff.mpr hget, rfl⟩, rfl⟩

/-- A listing of a namespace depends on its objects only. -/
theorem inNamespace_congr {α : Type} {ns : String} {d e : Dict ObjectKey α}
    (h : ∀ name, d.get? ⟨ns, name⟩ = e.get? ⟨ns, name⟩) : inNamespace ns d = inNamespace ns e := by
  refine congrArg Dict.values (Dict.eq_of_get?_eq fun key => ?_)
  rw [Dict.get?_filter, Dict.get?_filter]
  obtain ⟨ns', name⟩ := key
  by_cases hns : ns' = ns
  · rw [hns, h]
  · cases d.get? ⟨ns', name⟩ <;> cases e.get? ⟨ns', name⟩ <;> simp [Option.filter, hns]

namespace World

/-! ## Requests that leave the objects alone -/

theorem objects_read {α : Type} (request name : String) (answer : Objects → α) (w : World) :
    (w.read request name answer).2.objects = w.objects := by
  unfold read unlessFault
  split <;> rfl

theorem objects_provision (c : Cluster) (handler : Option ConfigHandler) (w : World) :
    (w.provision c handler).2.objects = w.objects := by
  unfold provision
  cases WorkloadPlan.ofCluster c with
  | error e => rfl
  | ok plan =>
    dsimp only
    split <;> rfl

/-! ## Requests without a fault -/

theorem unlessFault_ok {α : Type} {w : World} {request name : String}
    {answer : World → Except Failure α × World} {a : α}
    (hok : (w.unlessFault request name answer).1 = .ok a) :
    ∃ faults, w.unlessFault request name answer = answer { w with faults } := by
  unfold unlessFault at hok ⊢
  split at hok
  · cases hok
  · next faults htake => exact ⟨faults, rfl⟩

theorem eq_of_read {α : Type} {request name : String} {answer : Objects → α}
    {w : World} {a : α} (hok : (w.read request name answer).1 = .ok a) : a = answer w.objects := by
  obtain ⟨faults, hanswer⟩ := unlessFault_ok hok
  rw [read, hanswer] at hok
  exact (Except.ok.inj hok).symm

theorem clusters_patchClusterStatus {key : ObjectKey} {version : Option String}
    {status : ClusterStatus} {w : World}
    (hok : (w.patchClusterStatus key version status).1 = .ok ()) :
    ∃ c m, w.objects.clusters.get? key = some c ∧
      (w.patchClusterStatus key version status).2.objects.clusters =
        w.objects.clusters.insert key { c with metadata := m, status := some status } := by
  obtain ⟨faults, hanswer⟩ := unlessFault_ok hok
  unfold patchClusterStatus at hok ⊢
  rw [hanswer] at hok ⊢
  dsimp only at hok ⊢
  split at hok
  · cases hok
  · next c hget =>
    split at hok
    · cases hok
    · next hversion =>
      rw [if_neg hversion]
      exact ⟨c, _, hget, rfl⟩

theorem configMaps_createConfigMap {ns : String} {map : ConfigMap} {w : World}
    (hok : (w.createConfigMap ns map).1 = .ok ()) :
    (w.createConfigMap ns map).2.objects.configMaps =
      w.objects.configMaps.insert ⟨ns, map.metadata.anyName⟩
        { map with metadata := { map.metadata with ns := some ns } } := by
  obtain ⟨faults, hanswer⟩ := unlessFault_ok hok
  unfold createConfigMap at hok ⊢
  rw [hanswer] at hok ⊢
  dsimp only at hok ⊢
  split at hok
  · cases hok
  · next habsent =>
    rw [if_neg habsent]
    rfl

theorem configMaps_deleteConfigMap {key : ObjectKey} {w : World}
    (hok : (w.deleteConfigMap key).1 = .ok ()) :
    (w.deleteConfigMap key).2.objects.configMaps = w.objects.configMaps.erase key := by
  obtain ⟨faults, hanswer⟩ := unlessFault_ok hok
  rw [deleteConfigMap, hanswer]
  rfl

end World

end BrokerFleet.Simulation
