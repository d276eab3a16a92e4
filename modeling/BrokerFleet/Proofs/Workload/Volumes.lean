import BrokerFleet.Proofs.Cluster.Checking
import BrokerFleet.Workload.Build
import Mathlib.Data.List.Nodup

/-! # Volumes and mounts of a workload

Every mounted object has a volume that is named after it, whatever kind of object it is. So the
volumes are told apart exactly if no name is mounted twice, be it as a config map, as a secret or as
the secret of the console; the paths in the broker container are told apart exactly if no list
repeats a name. -/

namespace BrokerFleet

/-! ## What a stateful set declares and mounts -/

namespace StatefulSet

def volumeNames (s : StatefulSet) : List String :=
  (((s.spec.bind (·.pod)).bind (·.volumes)).getD []).map (·.name)

/-- The containers that run before the others in a pod. -/
def firstContainers (s : StatefulSet) : List Container :=
  ((s.spec.bind (·.pod)).bind (·.initContainers)).getD []

/-- The containers that run side by side in a pod. -/
def containers (s : StatefulSet) : List Container := (s.spec.bind (·.pod)).elim [] (·.containers)

end StatefulSet

def Container.mounts (c : Container) : List VolumeMount := c.volumeMounts.getD []

namespace WorkloadPlan

variable (p : WorkloadPlan) (handler : Option ConfigHandler)

def configMapNames : List String := p.cluster.spec.deploymentPlan.extraMounts.configMaps

def secretNames : List String := p.cluster.spec.deploymentPlan.extraMounts.secrets

/-- The names of the objects that are mounted, each as often as it is. -/
def mountedObjects : List String :=
  p.configMapNames ++ p.secretNames ++ if p.encrypted then [p.names.consoleSecret] else []

/-! ## Names of volumes -/

theorem volumeName_injective : Function.Injective volumeName := by
  intro m n h
  have htext : m.toList ++ "-volume".toList = n.toList ++ "-volume".toList := by
    simpa only [volumeName, String.toList_append] using congrArg String.toList h
  exact String.toList_injective (List.append_cancel_right htext)

theorem initVolume_ne_volumeName (name : String) : initVolume ≠ volumeName name := by
  intro h
  have hlast := congrArg (fun s : String => s.toList.getLast?) h
  simp [initVolume, volumeName] at hlast

theorem names_mountedVolumes :
    p.mountedVolumes.map (·.1.name) = initVolume :: p.mountedObjects.map volumeName := by
  simp only [mountedVolumes, mountedObjects, configMapNames, secretNames]
  cases p.encrypted <;> simp [readMount, Function.comp_def]

theorem nodup_names_mountedVolumes :
    (p.mountedVolumes.map (·.1.name)).Nodup ↔ p.mountedObjects.Nodup := by
  have hinit : initVolume ∉ p.mountedObjects.map volumeName := by
    intro h
    obtain ⟨name, -, heq⟩ := List.mem_map.mp h
    exact initVolume_ne_volumeName name heq.symm
  rw [names_mountedVolumes, List.nodup_cons, List.nodup_map_iff volumeName_injective]
  exact and_iff_right hinit

/-- Every volume is mounted under its own name. -/
theorem name_of_mem_mountedVolumes {x : Volume × VolumeMount} (hx : x ∈ p.mountedVolumes) :
    x.2.name = x.1.name := by
  simp only [mountedVolumes, List.mem_append, List.mem_singleton, List.mem_map] at hx
  rcases hx with ((rfl | ⟨name, -, rfl⟩) | ⟨name, -, rfl⟩) | hx
  · rfl
  · rfl
  · rfl
  · split at hx
    · obtain rfl := List.mem_singleton.mp hx
      rfl
    · cases hx

/-! ## Places of volumes -/

theorem directory_injective (dir : String) : Function.Injective (dir ++ ·) := by
  intro m n h
  have htext := congrArg String.toList h
  simp only [String.toList_append, List.append_right_inj] at htext
  exact String.toList_injective htext

/-- Texts that differ within what they begin with are different. -/
theorem append_ne_append {a b : String} (n : ℕ) (ha : n ≤ a.toList.length)
    (hb : n ≤ b.toList.length) (hne : a.toList.take n ≠ b.toList.take n) (x y : String) :
    a ++ x ≠ b ++ y := by
  intro h
  have htake := congrArg (fun s : String => s.toList.take n) h
  simp only [String.toList_append, List.take_append_of_le_length ha,
    List.take_append_of_le_length hb] at htake
  exact hne htake

theorem paths_mountedVolumes :
    p.mountedVolumes.map (·.2.mountPath) =
      initDir :: (p.configMapNames.map (configMapDir ++ "/" ++ ·) ++
        (p.secretNames.map (secretDir ++ "/" ++ ·) ++
          if p.encrypted then [p.consolePath] else [])) := by
  simp only [mountedVolumes, configMapNames, secretNames]
  cases p.encrypted <;> simp [readMount, Function.comp_def]

theorem nodup_paths_mountedVolumes :
    (p.mountedVolumes.map (·.2.mountPath)).Nodup ↔ p.configMapNames.Nodup ∧
    p.secretNames.Nodup := by
  have hmap_init (n : String) : configMapDir ++ "/" ++ n ≠ initDir ++ "" :=
    append_ne_append 6 (by decide) (by decide) (by decide) n ""
  have hsecret_init (n : String) : secretDir ++ "/" ++ n ≠ initDir ++ "" :=
    append_ne_append 6 (by decide) (by decide) (by decide) n ""
  have hconsole_init : p.consolePath ≠ initDir ++ "" :=
    append_ne_append (a := "/etc/") 2 (by decide) (by decide) (by decide) _ ""
  have hmap_secret (m n : String) : configMapDir ++ "/" ++ m ≠ secretDir ++ "/" ++ n :=
    append_ne_append 12 (by decide) (by decide) (by decide) m n
  have hmap_console (n : String) : configMapDir ++ "/" ++ n ≠ p.consolePath :=
    append_ne_append (b := "/etc/") 2 (by decide) (by decide) (by decide) n _
  have hsecret_console (n : String) : secretDir ++ "/" ++ n ≠ p.consolePath :=
    append_ne_append (b := "/etc/") 2 (by decide) (by decide) (by decide) n _
  have hconsole {x : String} (hx : x ∈ if p.encrypted then [p.consolePath] else []) :
      x = p.consolePath := by
    split at hx
    · exact List.mem_singleton.mp hx
    · cases hx
  have hnodup_console : (if p.encrypted then [p.consolePath] else []).Nodup := by
    split
    · exact List.nodup_singleton _
    · exact List.nodup_nil
  rw [paths_mountedVolumes, List.nodup_cons, List.nodup_append, List.nodup_append,
    List.nodup_map_iff (directory_injective _), List.nodup_map_iff (directory_injective _)]
  constructor
  · rintro ⟨-, hmaps, ⟨hsecrets, -⟩, -⟩
    exact ⟨hmaps, hsecrets⟩
  · rintro ⟨hmaps, hsecrets⟩
    simp only [List.mem_append, List.mem_map]
    refine ⟨?_, hmaps, ⟨hsecrets, hnodup_console, ?_⟩, ?_⟩
    · rintro (⟨n, -, h⟩ | ⟨n, -, h⟩ | h)
      · exact hmap_init n (by simpa using h)
      · exact hsecret_init n (by simpa using h)
      · exact hconsole_init (by simpa using (hconsole h).symm)
    · rintro _ ⟨n, -, rfl⟩ x hx h
      exact hsecret_console n (h.trans (hconsole hx))
    · rintro _ ⟨n, -, rfl⟩ x (⟨m, -, rfl⟩ | hx) h
      · exact hmap_secret n m h
      · exact hmap_console n (h.trans (hconsole hx))

/-! ## The stateful set -/

@[simp] theorem volumeNames_statefulSet :
    (p.statefulSet handler).volumeNames = p.mountedVolumes.map (·.1.name) := by
  simp [StatefulSet.volumeNames, statefulSet, Function.comp_def]

@[simp] theorem containers_statefulSet :
    (p.statefulSet handler).containers = [p.brokerContainer] := rfl

@[simp] theorem firstContainers_statefulSet :
    (p.statefulSet handler).firstContainers = [p.initContainer handler] := rfl

@[simp] theorem mounts_brokerContainer : p.brokerContainer.mounts = p.mountedVolumes.map (·.2) :=
  rfl

/-- A handler has no say in what is mounted. -/
@[simp] theorem mounts_initContainer :
    (p.initContainer handler).mounts = [⟨initVolume, initDir, none⟩] := by
  cases handler <;> rfl

theorem mem_volumeNames_of_mem_mounts {c : Container} {m : VolumeMount}
    (hc : c ∈ (p.statefulSet handler).firstContainers ++ (p.statefulSet handler).containers)
    (hm : m ∈ c.mounts) : m.name ∈ (p.statefulSet handler).volumeNames := by
  simp only [firstContainers_statefulSet, containers_statefulSet, List.singleton_append,
    List.mem_cons, List.not_mem_nil, or_false] at hc
  rw [volumeNames_statefulSet]
  rcases hc with rfl | rfl
  · rw [mounts_initContainer, List.mem_singleton] at hm
    rw [hm, names_mountedVolumes]
    exact List.mem_cons_self
  · rw [mounts_brokerContainer] at hm
    obtain ⟨x, hx, rfl⟩ := List.mem_map.mp hm
    rw [p.name_of_mem_mountedVolumes hx]
    exact List.mem_map_of_mem hx

/-- If every mount of the broker container names one volume only, then no two volumes share a name,
since each of them is mounted there. -/
theorem nodup_volumeNames_of_count
    (hcount : ∀ m ∈ p.brokerContainer.mounts,
      (p.statefulSet handler).volumeNames.count m.name = 1) :
    (p.statefulSet handler).volumeNames.Nodup := by
  refine List.nodup_iff_count_le_one.mpr fun name => ?_
  by_cases hname : name ∈ (p.statefulSet handler).volumeNames
  · rw [volumeNames_statefulSet] at hname
    obtain ⟨x, hx, rfl⟩ := List.mem_map.mp hname
    have hone := hcount x.2 (by rw [mounts_brokerContainer]; exact List.mem_map_of_mem hx)
    rw [p.name_of_mem_mountedVolumes hx] at hone
    exact Nat.le_of_eq hone
  · rw [List.count_eq_zero_of_not_mem hname]
    exact Nat.zero_le 1

/-- Volumes are told apart exactly if no object is mounted twice, of whatever kind, and so are the
volumes that the mounts name; the paths in the broker container are told apart exactly if neither
list repeats a name. A mount names at least one volume in any case. -/
theorem statefulSet_tells_apart :
    ((p.statefulSet handler).volumeNames.Nodup ↔ p.mountedObjects.Nodup) ∧
      (∀ c ∈ (p.statefulSet handler).containers,
        ((c.mounts.map (·.mountPath)).Nodup ↔ p.configMapNames.Nodup ∧ p.secretNames.Nodup)) ∧
      (∀ c ∈ (p.statefulSet handler).firstContainers ++ (p.statefulSet handler).containers,
        ∀ m ∈ c.mounts, m.name ∈ (p.statefulSet handler).volumeNames) ∧
      ((∀ c ∈ (p.statefulSet handler).firstContainers ++ (p.statefulSet handler).containers,
        ∀ m ∈ c.mounts, (p.statefulSet handler).volumeNames.count m.name = 1) ↔
          p.mountedObjects.Nodup) := by
  have hvolumes : (p.statefulSet handler).volumeNames.Nodup ↔ p.mountedObjects.Nodup := by
    rw [volumeNames_statefulSet, nodup_names_mountedVolumes]
  refine ⟨hvolumes, ?_, fun c hc m hm => p.mem_volumeNames_of_mem_mounts handler hc hm, ?_⟩
  · intro c hc
    rw [containers_statefulSet, List.mem_singleton] at hc
    rw [hc, mounts_brokerContainer, List.map_map]
    exact p.nodup_paths_mountedVolumes
  · rw [← hvolumes]
    constructor
    · intro hcount
      refine p.nodup_volumeNames_of_count handler (hcount p.brokerContainer ?_)
      simp
    · intro hnodup c hc m hm
      exact List.count_eq_one_of_mem hnodup (p.mem_volumeNames_of_mem_mounts handler hc hm)

end WorkloadPlan

/-! ## A valid cluster with two volumes of a name -/

/-- A namespace with an object of every name. -/
def fullContents : Validity.Contents := ⟨fun _ => some {}, fun _ => some {}⟩

/-- A cluster that mounts a config map and a secret of the same name. -/
def namesakes : Cluster where
  metadata := { name := some "broker", ns := some "test-ns" }
  spec := { deploymentPlan := { extraMounts := { configMaps := ["app"], secrets := ["app"] } } }

/-- Validation passes a cluster whose stateful set has two volumes of one name, whatever the
handler. -/
theorem namesakes_valid_and_clash :
    (∃ v, Task.outcome (Validity.holding fullContents) (Validity.validate {} namesakes) () = .ok v ∧
      v.isValid = true) ∧
      ∃ p, WorkloadPlan.ofCluster namesakes = .ok p ∧ ∀ handler : Option ConfigHandler,
        ¬ (p.statefulSet handler).volumeNames.Nodup ∧
          ∃ c ∈ (p.statefulSet handler).containers, ∃ m ∈ c.mounts,
            (p.statefulSet handler).volumeNames.count m.name = 2 := by
  refine ⟨⟨_, rfl, by decide +kernel⟩, ⟨namesakes, "test-ns"⟩, rfl, fun handler => ⟨?_, ?_⟩⟩
  · rw [WorkloadPlan.volumeNames_statefulSet]
    decide +kernel
  · refine ⟨_, List.mem_singleton_self _, _, List.mem_cons_of_mem _ List.mem_cons_self, ?_⟩
    rw [WorkloadPlan.volumeNames_statefulSet]
    decide +kernel

end BrokerFleet
