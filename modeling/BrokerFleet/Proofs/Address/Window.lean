import BrokerFleet.Proofs.Address.History

/-! # Pods observed during an apply

Pods may be observed between the steps of an apply. The last step remembers the version whatever
happened before it: an invalidation that comes between the look at the replicas and that step is
lost, and the apply that it asks for is passed over. An invalidation after the last step counts. -/

namespace BrokerFleet.AddressLifecycle

open Keeping

variable {σ : Type} {h : Handler surroundings σ} {config : Config} {a : Address}
  {m m' : AddressMemory} {s s' : σ} {log : List surroundings.Reply}

def observe (p : Pod) : Keeping Nat := ExceptT.lift (onPod p)

/-- The steps of an apply of a stale declaration, with pods observed before its synchronization and
between that and the last step. -/
def applyAmid (config : Config) (a : Address) (before amid : List Pod) : Keeping Unit := do
  begin a
  let _ ← before.mapM observe
  synchronize config a
  let _ ← amid.mapM observe
  finish a

theorem applyAmid_checksum {before amid : List Pod}
    (hruns : Runs h (applyAmid config a before amid) m s log (.ok ()) m' s') :
    m'.checksum a.metadata.key = some (versionOf a) := by
  obtain ⟨_, _, m₁, s₁, _, -, hruns, -⟩ := hruns.of_bind
  obtain ⟨_, _, m₂, s₂, _, -, hruns, -⟩ := hruns.of_bind
  obtain ⟨_, _, m₃, s₃, _, -, hruns, -⟩ := hruns.of_bind
  obtain ⟨_, _, m₄, s₄, _, -, hfinish, -⟩ := hruns.of_bind
  obtain ⟨-, -, rfl, -⟩ := hfinish.unique (finish_runs h a m₄ s₄)
  simp [checksum_tracked]

/-- Noticed pods make those deployments stale that they ask passes for. -/
theorem carryOut_pods_checksum (pods : List Pod) (m : AddressMemory) (s : σ) (k : ObjectKey) :
    let later := carryOut h config (pods.map fun p => ⟨id, .pod p⟩) m s
    later.2.1.checksum k =
      if ∀ p ∈ later.1, k ∉ triggered p.log then m.checksum k else none := by
  induction pods generalizing m s with
  | nil => simp [carryOut]
  | cons p rest ih =>
    simp only [List.map_cons, carryOut, List.forall_mem_cons, ih, id, perform_pod, onPod_checksum]
    by_cases hk : k ∈ triggered (((onPod p).run m).transcript h s) <;> simp [hk]

/-- After an apply amid observed pods, the next apply of the version accesses nothing exactly when
no pod observed since then has made the deployment stale: one observed before made no difference. -/
theorem quiet_after_applyAmid_iff {before amid : List Pod}
    (hruns : Runs h (applyAmid config a before amid) m s log (.ok ()) m' s')
    (hvalid : a.spec.violations = []) (since : List Pod) (s₁ s₂ : σ) :
    let later := carryOut h config (since.map fun p => ⟨id, .pod p⟩) m' s₁
    (∀ x ∈ (perform h config (.apply a) later.2.1 s₂).1.log,
      x.1.isCall = false ∧ x.1.accessesStore = false) ↔
      ∀ p ∈ later.1, a.metadata.key ∉ triggered p.log := by
  intro later
  rw [quiet_iff h config hvalid, carryOut_pods_checksum, applyAmid_checksum hruns]
  simp [later]

/-! ## A lost invalidation -/

/-- The pod of a replica that came back. -/
def returningPod : Pod where
  metadata := {
    name := some "c-ss-0", ns := some "n", uid := some "u"
    ownerReferences := some [⟨"apps/v1", "StatefulSet", "c-ss", "s", some true, none⟩] }
  report := some { phase := none, conditions := some [⟨"Ready", "True"⟩] }

/-- A fleet of one replica, all of whose calls succeed, and someone who listens to triggers. -/
def oneReplica : Handler surroundings Unit
  | .listClusters _, s =>
    (.ok [{ metadata := { name := some "c", ns := some "n" }, spec := {} }], s)
  | .getStatefulSet _, s => (.ok (some { spec := some { replicas := some 1 } }), s)
  | .getPod _, s => (.ok (some returningPod), s)
  | .getSecret _, s => (.ok none, s)
  | .call _ _, s => (.ok .null, s)
  | .send _, s => (true, s)
  | r, s => (r.refusal, s)

def plainAddress : Address where
  metadata := { name := some "a", ns := some "n", resourceVersion := some "1" }
  spec := { addressName := "a" }

/-- A pod that comes back after the calls to its replica and before the last step asks for an apply,
but that apply accesses nothing. -/
theorem invalidation_lost : ∃ log m',
    Runs oneReplica (applyAmid {} plainAddress [] [returningPod]) {} () log (.ok ()) m' () ∧
      plainAddress.metadata.key ∈ triggered log ∧
      ∀ x ∈ (perform oneReplica {} (.apply plainAddress) m' ()).1.log,
        x.1.isCall = false ∧ x.1.accessesStore = false := by
  have hruns : Runs oneReplica (applyAmid {} plainAddress [] [returningPod]) {} ()
      (((applyAmid {} plainAddress [] [returningPod]).run.run {}).transcript oneReplica ()) (.ok ())
      (((applyAmid {} plainAddress [] [returningPod]).run.run {}).run oneReplica ()).1.2 () :=
    ⟨rfl, by rfl⟩
  refine ⟨_, _, hruns, by decide +kernel, ?_⟩
  exact (quiet_iff oneReplica {} rfl _ ()).mpr (applyAmid_checksum hruns)

end BrokerFleet.AddressLifecycle
