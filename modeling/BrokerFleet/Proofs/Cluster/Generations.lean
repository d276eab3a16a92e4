import BrokerFleet.Proofs.Cluster.Inheritance
import BrokerFleet.Proofs.Cluster.Overtaken
import BrokerFleet.Proofs.Cluster.Transitions

/-! # Generations of persisted conditions

A projected condition carries the generation of the declaration that the pass processed. Whether the
status is written is decided without the generations. So a pass that comes to another status than
the persisted one renews the generations of all conditions, and one that comes to the same status
renews none: after a change of the declaration that shows nowhere in the status, the conditions keep
the generation from before. -/

namespace BrokerFleet

namespace ClusterPass

variable {σ : Type} {h : Handler surroundings σ} {config : Config} {registry : HandlerRegistry}
  {key : ObjectKey} {c : Cluster} {x : Survey} {held : σ → Option Cluster} {s : σ}
    {status : ClusterStatus}

/-! ## Generations of what is projected -/

/-- The first condition of each type that a survey projects carries the generation that it
processed. -/
theorem generation_survey (hx : Task.outcome h (survey config registry key c) s = .ok x)
    {t : String} {e : Condition} (he : Condition.find? t x.status.conditions = some e) :
    e.observedGeneration = c.generation := by
  obtain ⟨rfl, hv, -, -⟩ := survey_ok hx
  obtain ⟨stated, hstated, rfl⟩ :=
    Projection.exists_statement_of_find? (type_validated hv) (Projection.type_deployed ..) he
  rw [Condition.generation_dated, Projection.generation_statements hstated]

/-- No two conditions of a survey are of one type, if no two that were handed on are. -/
theorem nodup_survey (hx : Task.outcome h (survey config registry key c) s = .ok x)
    (hdistinct : Projection.Distinct c.status) :
    (x.status.conditions.map Condition.type).Nodup := by
  obtain ⟨rfl, -, -, -⟩ := survey_ok hx
  exact Projection.nodup_types_of_kept hdistinct ..

/-! ## What a pass persists -/

/-- A store that holds the cluster of a key and has no other writer: the cluster is read as it is
held, it stays as long as no status is patched in, and a patch that is accepted writes the status
that it was given. -/
structure Unshared (h : Handler surroundings σ) (key : ObjectKey) (held : σ → Option Cluster) :
    Prop where
  found : ∀ s found, (h (.getCluster key) s).1 = .ok found → found = held s
  leaves : ∀ r : Request, r.leavesStatus = true → ∀ s, held (h r s).2 = held s
  patched : ∀ version st s, (h (.patchClusterStatus key version st) s).1 = .ok () →
    ∃ c, held (h (.patchClusterStatus key version st) s).2 = some c ∧ c.status = some st

/-- A pass that finds its cluster and comes to a commit in which no request fails, not even by a
conflict. -/
structure CommitsCleanly (h : Handler surroundings σ) (config : Config) (registry : HandlerRegistry)
    (key : ObjectKey) (s : σ) (c : Cluster) (x : Survey) : Prop where
  found : (h (.getCluster key) s).1 = .ok (some c)
  surveyed : Task.outcome h (survey config registry key c) (h (.getCluster key) s).2 = .ok x
  clean : ∀ reply ∈ Task.transcript h (commit key x.status) (secondLook h config registry key c s),
    passFailure? reply = none

/-- A pass over a cluster in which no request fails commits cleanly. -/
theorem exists_commitsCleanly (hfound : (h (.getCluster key) s).1 = .ok (some c))
    (hclean : ∀ reply ∈ Task.transcript h (run config registry key) s, passFailure? reply = none) :
    ∃ x, CommitsCleanly h config registry key s c x := by
  rw [(run_of_cluster hfound).2, passOver] at hclean
  cases hx : Task.outcome h (survey config registry key c) (h (.getCluster key) s).2 with
  | error e =>
    -- a survey fails only by a request that failed
    obtain ⟨reply, hreply, hfailure⟩ := failsBy_survey config registry key c _ e hx
    rw [Task.transcript_bind_error _ hx] at hclean
    rw [hclean reply (List.mem_cons_of_mem _ hreply)] at hfailure
    cases hfailure
  | ok x =>
    rw [Task.transcript_bind_ok _ hx, transcript_settle] at hclean
    exact ⟨x, hfound, hx, fun reply hreply =>
      hclean reply (List.mem_cons_of_mem _ (List.mem_append_right _ hreply))⟩

namespace Unshared

variable (hstore : Unshared h key held)

include hstore

/-- A commit without a failure writes its status exactly if another one is held. -/
theorem held_commit (hheld : held s = some c)
    (hclean : ∀ reply ∈ Task.transcript h (commit key status) s, passFailure? reply = none) :
    ∃ c', held (Task.after h (commit key status) s) = some c' ∧
      Commits status c.status (patchesIn (Task.transcript h (commit key status) s)) c'.status := by
  have hread : held (h (.getCluster key) s).2 = some c :=
    (hstore.leaves (.getCluster key) rfl s).trans hheld
  cases committed h key status s with
  | unread hfound houtcome hasked hafter =>
    rw [hasked, hfound] at hclean
    cases hclean _ (List.mem_singleton_self _)
  | @unwritten found hfound hsame houtcome hasked hafter =>
    have hcurrent : found = some c := (hstore.found s found hfound).trans hheld
    obtain ⟨st, hstatus, hsame⟩ := (Option.any_eq_true _ _).mp (hsame c hcurrent)
    rw [hasked, hafter, hstatus]
    exact ⟨c, hread, hstatus ▸ .unchanged hsame⟩
  | @patched current answered s' hfound hother hanswered houtcome hasked hafter =>
    have hcurrent : some current = some c := (hstore.found s _ hfound).trans hheld
    obtain rfl := Option.some.inj hcurrent
    rw [hasked] at hclean ⊢
    cases answered with
    | error e => cases hclean _ (List.mem_cons_of_mem _ (List.mem_singleton_self _))
    | ok _ =>
      obtain ⟨c', hc', hstatus⟩ := hstore.patched current.metadata.resourceVersion status
        (h (.getCluster key) s).2 (by rw [hanswered])
      rw [hanswered, ← hafter] at hc'
      refine ⟨c', hc', hstatus ▸ .patched fun st hst => ?_⟩
      simpa [hst] using hother

theorem held_run (hclean : CommitsCleanly h config registry key s c x) :
    ∃ c', held (Task.after h (run config registry key) s) = some c' ∧
      Commits x.status c.status (patchesIn (Task.transcript h (run config registry key) s))
        c'.status := by
  have hheld : held s = some c := (hstore.found s _ hclean.found).symm
  have hsecond : held (secondLook h config registry key c s) = some c :=
    (asks_survey config registry key c).preserves (Q := fun s' => held s' = some c)
      (fun r hr s' hs' => (hstore.leaves r hr s').trans hs')
      ((hstore.leaves (.getCluster key) rfl s).trans hheld)
  obtain ⟨c', hc', hcommits⟩ := hstore.held_commit hsecond hclean.clean
  rw [after_run_of_cluster hclean.found, (run_of_cluster hclean.found).2, passOver,
    Task.after_bind_ok _ hclean.surveyed, Task.transcript_bind_ok _ hclean.surveyed, after_settle,
    transcript_settle, ← List.singleton_append, patchesIn_append, patchesIn_append,
    patchesIn_survey]
  exact ⟨c', hc', hcommits⟩

end Unshared

/-- What a pass whose commit meets no failure leaves persisted, where no one else writes. If the
persisted status was the same as the projected one, nothing is written, and its conditions keep the
generations that they had. Otherwise the projected status is persisted, and in it the first
condition of each type carries the generation that the pass processed. These are all conditions, if
no two that the earlier status handed on are of one type. -/
theorem persisted_generations (hstore : Unshared h key held)
    (hclean : CommitsCleanly h config registry key s c x) :
    let patches := patchesIn (Task.transcript h (run config registry key) s)
    ∃ c' st, held (Task.after h (run config registry key) s) = some c' ∧ c'.status = some st ∧
      ((∃ o, c.status = some o ∧ o.same x.status = true) → patches = [] ∧ c.status = some st) ∧
      ((∀ o, c.status = some o → o.same x.status = false) → patches = [x.status] ∧ st = x.status ∧
        (∀ t e, Condition.find? t st.conditions = some e → e.observedGeneration = c.generation) ∧
        (Projection.Distinct c.status → ∀ e ∈ st.conditions,
          e.observedGeneration = c.generation)) := by
  intro patches
  obtain ⟨c', hheld, hcommits⟩ := hstore.held_run hclean
  replace hcommits : Commits x.status c.status patches c'.status := hcommits
  have hfirst : ∀ t e, Condition.find? t x.status.conditions = some e →
      e.observedGeneration = c.generation :=
    fun _ _ he => generation_survey hclean.surveyed he
  have hall : Projection.Distinct c.status → ∀ e ∈ x.status.conditions,
      e.observedGeneration = c.generation :=
    fun hdistinct e he =>
      hfirst e.type e (Condition.find?_of_mem (nodup_survey hclean.surveyed hdistinct) he)
  clear_value patches
  generalize hold : c.status = old, hnew : c'.status = new at hcommits hall ⊢
  cases hcommits with
  | @unchanged st hsame =>
    refine ⟨c', st, hheld, hnew, fun _ => ⟨rfl, rfl⟩, fun hother => ?_⟩
    rw [hother st rfl] at hsame
    cases hsame
  | patched hother =>
    refine ⟨c', x.status, hheld, hnew, ?_, fun _ => ⟨rfl, rfl, hfirst, hall⟩⟩
    rintro ⟨o, rfl, hsame⟩
    rw [hother o rfl] at hsame
    cases hsame

/-! ## A generation that no condition shows -/

section World

open Simulation

def clusterIn (key : ObjectKey) (w : World) : Option Cluster := w.objects.clusters.get? key

theorem unshared_world (key : ObjectKey) : Unshared World.answer key (clusterIn key) where
  found w found hfound := World.eq_of_read hfound
  leaves r hr w := by rw [clusterIn, objects_of_leavesStatus hr]; rfl
  patched version st w hok := by
    obtain ⟨c, m, -, hclusters⟩ := World.clusters_patchClusterStatus hok
    refine ⟨{ c with metadata := m, status := some st }, ?_, rfl⟩
    exact (congrArg (Dict.get? · key) hclusters).trans (Dict.get?_insert_self ..)

/-- A cluster at its second generation, with the status that a pass over the first one left. -/
def amendedCluster (spec : ClusterSpec) : Cluster where
  metadata :=
    { name := some "broker", ns := some "test-ns", generation := some 2,
      resourceVersion := some "2" }
  spec
  status := some {
    deploymentPlanSize := 1
    scaleLabelSelector := "application=broker-app,broker.operator.dev/cluster=broker"
    version := { image := "quay.io/broker-operator/broker-kubernetes:2.30.0"
                 initImage := "quay.io/broker-operator/broker-kubernetes-init:2.30.0"
                 brokerVersion := "2.30.0" }
    podStatus := { ready := ["broker-ss-0"] }
    conditions := [(Condition.valid, "ValidationSucceeded"), (Condition.deployed, "AllPodsReady"),
        (Condition.ready, "Ready")].map fun (type, reason) =>
      { type, status := .yes, reason, observedGeneration := 1,
        lastTransitionTime := some "2024-01-01T00:00:00+00:00" } }

def amendedWorld (spec : ClusterSpec) : World where
  now := "2024-01-01T00:00:00+00:00"
  objects := (Objects.put {} (.cluster (amendedCluster spec))).put (.pod
    { metadata :=
        { name := some "broker-ss-0", ns := some "test-ns",
          labels := some (clusterLabels "broker") }
      report := some { phase := some "Running", conditions := some [⟨"Ready", "True"⟩] } })

theorem found_amendedWorld (spec : ClusterSpec) :
    (World.answer (.getCluster ⟨"test-ns", "broker"⟩) (amendedWorld spec)).1 =
      .ok (some (amendedCluster spec)) :=
  congrArg Except.ok (Dict.get?_insert_self ..)

/-- The console is exposed, which shows nowhere in the status. -/
def exposing : ClusterSpec := { console := { expose := true } }

/-- A second replica, which is not there yet. -/
def enlarging : ClusterSpec := { deploymentPlan := { size := 2 } }

/-- The second replica shows in the status, and all conditions carry the generation that declared
it. -/
theorem persisted_generations_enlarging :
    let key : ObjectKey := ⟨"test-ns", "broker"⟩
    let done := Task.after World.answer (run {} .empty key) (amendedWorld enlarging)
    Unshared World.answer key (clusterIn key) ∧
    ∃ x, CommitsCleanly World.answer {} .empty key (amendedWorld enlarging)
      (amendedCluster enlarging) x ∧
      ∃ c st, clusterIn key done = some c ∧ c.status = some st ∧
        ∀ e ∈ st.conditions, e.observedGeneration = 2 := by
  intro key done
  obtain ⟨x, hx⟩ : ∃ x, CommitsCleanly World.answer {} .empty key (amendedWorld enlarging)
      (amendedCluster enlarging) x := exists_commitsCleanly (found_amendedWorld enlarging)
        (by decide +kernel)
  obtain ⟨c, st, hheld, hst, -, hwritten⟩ := persisted_generations (unshared_world key) hx
  have hsize : x.status.deploymentPlanSize = 2 := (states_survey hx.surveyed).size
  have hother : ∀ o, (amendedCluster enlarging).status = some o → o.same x.status = false := by
    rintro _ ⟨⟩
    simp [ClusterStatus.same, hsize]
  obtain ⟨-, -, -, hgenerations⟩ := hwritten hother
  exact ⟨unshared_world key, x, hx, c, st, hheld, hst, hgenerations (by decide)⟩

/-- The console is exposed, no request of the pass fails, and all conditions keep the first
generation. -/
theorem exposing_keeps_generations :
    let key : ObjectKey := ⟨"test-ns", "broker"⟩
    let done := Task.after World.answer (run {} .empty key) (amendedWorld exposing)
    Unshared World.answer key (clusterIn key) ∧
    (∃ x, CommitsCleanly World.answer {} .empty key (amendedWorld exposing)
      (amendedCluster exposing) x) ∧
    (amendedCluster exposing).generation = 2 ∧
      (persistedIn key done).map (fun st => st.conditions.map (·.observedGeneration)) =
        some [1, 1, 1] :=
  ⟨unshared_world _, exists_commitsCleanly (found_amendedWorld _) (by decide +kernel), by decide,
    by decide +kernel⟩

end World

end ClusterPass

end BrokerFleet
