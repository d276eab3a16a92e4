import BrokerFleet.Proofs.Cluster.Settling

/-! # Passes that are overtaken

A pass reads its cluster twice: first to survey it, then to guard the patch of its status by the
resource version. The patch is refused if the cluster was updated after the second reading. An
update between the two readings goes unnoticed: the status that is accepted then states the
declaration of the first. -/

namespace BrokerFleet

/-- The status that a request patched in, if it was accepted. -/
def acceptedStatus? : surroundings.Reply → Option ClusterStatus
  | ⟨.patchClusterStatus _ _ status, .ok _⟩ => some status
  | _ => none

/-- The statuses that were patched in and accepted, in order. -/
def acceptedIn (log : List surroundings.Reply) : List ClusterStatus := log.filterMap acceptedStatus?

theorem acceptedIn_append (xs ys : List surroundings.Reply) :
    acceptedIn (xs ++ ys) = acceptedIn xs ++ acceptedIn ys := List.filterMap_append

theorem acceptedIn_eq_nil {log : List surroundings.Reply} (h : ∀ x ∈ log, x.1.leavesStatus = true) :
    acceptedIn log = [] := by
  rw [acceptedIn, List.filterMap_eq_nil_iff]
  rintro ⟨r, a⟩ hx
  cases r <;> first | rfl | cases h _ hx

namespace ClusterPass

variable {σ : Type} {h : Handler surroundings σ} {config : Config} {registry : HandlerRegistry}
  {key : ObjectKey} {c : Cluster} {held : σ → Option Cluster} {s : σ} {status st : ClusterStatus}

/-! ## The moments of a pass -/

/-- The state in which a pass reads its cluster again. -/
def secondLook (h : Handler surroundings σ) (config : Config) (registry : HandlerRegistry)
    (key : ObjectKey) (c : Cluster) (s : σ) : σ :=
  Task.after h (survey config registry key c) (h (.getCluster key) s).2

/-- The state in which it patches the status. -/
def writing (h : Handler surroundings σ) (config : Config) (registry : HandlerRegistry)
    (key : ObjectKey) (c : Cluster) (s : σ) : σ :=
  (h (.getCluster key) (secondLook h config registry key c s)).2

theorem of_mem_accepted_commit (hst : st ∈ acceptedIn (Task.transcript h (commit key status) s)) :
    st = status ∧ ∃ current, (h (.getCluster key) s).1 = .ok (some current) ∧
      (h (.patchClusterStatus key current.metadata.resourceVersion status)
        (h (.getCluster key) s).2).1 = .ok () := by
  cases committed h key status s with
  | unread hread houtcome hasked hafter =>
    rw [hasked] at hst
    cases hst
  | unwritten hread hsame houtcome hasked hafter =>
    rw [hasked] at hst
    cases hst
  | @patched current answered s' hread hother hanswered houtcome hasked hafter =>
    rw [hasked] at hst
    cases answered with
    | error e => cases hst
    | ok _ => exact ⟨List.mem_singleton.mp hst, current, hread, by rw [hanswered]⟩

/-- A status that a pass gets accepted is what its survey projected, and was guarded by the version
of the second reading. -/
theorem of_mem_accepted_run
    (hst : st ∈ acceptedIn (Task.transcript h (run config registry key) s)) :
    ∃ c x current, (h (.getCluster key) s).1 = .ok (some c) ∧
      Task.outcome h (survey config registry key c) (h (.getCluster key) s).2 = .ok x ∧
      (h (.getCluster key) (secondLook h config registry key c s)).1 = .ok (some current) ∧
      st = x.status ∧
      (h (.patchClusterStatus key current.metadata.resourceVersion st)
        (writing h config registry key c s)).1 = .ok () := by
  cases hfound : (h (.getCluster key) s).1 with
  | error e =>
    rw [(run_of_error hfound).2] at hst
    cases hst
  | ok found =>
    cases found with
    | none =>
      rw [(run_of_absent hfound).2] at hst
      cases hst
    | some c =>
      rw [(run_of_cluster hfound).2, passOver] at hst
      replace hst : st ∈ acceptedIn (Task.transcript h
          (survey config registry key c >>= settle config key) (h (.getCluster key) s).2) := hst
      have hsurveyed : acceptedIn (Task.transcript h (survey config registry key c)
          (h (.getCluster key) s).2) = [] :=
        acceptedIn_eq_nil ((asks_survey config registry key c).transcript h _)
      cases hx : Task.outcome h (survey config registry key c) (h (.getCluster key) s).2 with
      | error e =>
        rw [Task.transcript_bind_error _ hx, hsurveyed] at hst
        cases hst
      | ok x =>
        rw [Task.transcript_bind_ok _ hx, acceptedIn_append, hsurveyed, List.nil_append,
          transcript_settle] at hst
        obtain ⟨rfl, current, hcurrent, haccepted⟩ := of_mem_accepted_commit hst
        exact ⟨c, x, current, rfl, hx, hcurrent, rfl, haccepted⟩

/-! ## What an accepted status states -/

/-- The status of a cluster states this declaration. -/
structure States (st : ClusterStatus) (c : Cluster) : Prop where
  size : st.deploymentPlanSize = c.spec.deploymentPlan.size
  version : st.version = Version.status c.spec
  generation : ∀ t ∈ Projection.statedTypes,
    (Condition.find? t st.conditions).map (·.observedGeneration) = some c.generation

/-- The survey of a cluster states its declaration. -/
theorem states_survey {x : Survey} (hx : Task.outcome h (survey config registry key c) s = .ok x) :
    States x.status c := by
  obtain ⟨rfl, hv, -, -⟩ := survey_ok hx
  refine ⟨rfl, rfl, fun t ht => ?_⟩
  have hgeneration {e d : Condition}
      (h : e.untimed = (Projection.observed x.cluster.generation d).untimed) :
      e.observedGeneration = x.cluster.generation := by
    change e.untimed.observedGeneration = _
    rw [h]
    rfl
  have hvalid := type_validated hv
  simp only [Projection.statedTypes, List.mem_cons, List.not_mem_nil, or_false] at ht
  obtain rfl | rfl | rfl := ht
  · obtain ⟨e, he, huntimed⟩ := Projection.find?_valid hvalid (Projection.type_deployed ..) x.now
      x.cluster.generation x.cluster.status
    exact (congrArg _ he).trans (congrArg some (hgeneration huntimed))
  · obtain ⟨e, he, huntimed⟩ := Projection.find?_deployed (Projection.type_deployed ..) x.now
      x.cluster.generation x.cluster.status
    exact (congrArg _ he).trans (congrArg some (hgeneration huntimed))
  · obtain ⟨e, he, huntimed⟩ := Projection.find?_ready x.now x.cluster.generation x.cluster.status
      x.validation.condition _
    exact (congrArg _ he).trans (congrArg some (hgeneration huntimed))

/-- A store that holds a cluster, which others may update at any time. A guarded patch is accepted
only at the version that it names, and a version tells the declaration. -/
structure Guarded (h : Handler surroundings σ) (key : ObjectKey) (held : σ → Option Cluster) :
    Prop where
  found : ∀ s, (h (.getCluster key) s).1 = .ok (held s)
  guarded : ∀ version status s, (h (.patchClusterStatus key (some version) status) s).1 = .ok () →
    ∃ c, held s = some c ∧ c.metadata.resourceVersion = some version
  versioned : ∀ s c, held s = some c → c.metadata.resourceVersion.isSome = true
  told : ∀ s s' c c', held s = some c → held s' = some c' →
    c.metadata.resourceVersion = c'.metadata.resourceVersion →
    c.spec = c'.spec ∧ c.generation = c'.generation

theorem States.congr {c c' : Cluster} (hst : States st c) (hspec : c.spec = c'.spec)
    (hgeneration : c.generation = c'.generation) : States st c' :=
  ⟨hspec ▸ hst.size, hspec ▸ hst.version, hgeneration ▸ hst.generation⟩

theorem States.generation_eq {c c' : Cluster} (hst : States st c) (hst' : States st c') :
    c.generation = c'.generation := by
  have hmem : Condition.valid ∈ Projection.statedTypes := by decide
  exact Option.some.inj ((hst.generation _ hmem).symm.trans (hst'.generation _ hmem))

/-- A status that a pass gets accepted states the declaration that its first reading found, while
the object at the write has the declaration that the second reading found. So it states that of the
object at the write if no update came between the readings, and does not if one did that gave the
object another generation. -/
theorem accepted_states_first_reading (hguarded : Guarded h key held)
    (hst : st ∈ acceptedIn (Task.transcript h (run config registry key) s)) :
    ∃ c current written, held s = some c ∧ held (secondLook h config registry key c s) =
      some current ∧
      held (writing h config registry key c s) = some written ∧
      current.spec = written.spec ∧ current.generation = written.generation ∧ States st c ∧
      (c.spec = current.spec → c.generation = current.generation → States st written) ∧
      (States st written → c.generation = current.generation) := by
  obtain ⟨c, x, current, hfound, hx, hcurrent, rfl, haccepted⟩ := of_mem_accepted_run hst
  have hc : held s = some c := Except.ok.inj ((hguarded.found s).symm.trans hfound)
  have hcurrent' : held (secondLook h config registry key c s) = some current :=
    Except.ok.inj ((hguarded.found _).symm.trans hcurrent)
  obtain ⟨version, hversion⟩ := Option.isSome_iff_exists.mp (hguarded.versioned _ _ hcurrent')
  rw [hversion] at haccepted
  obtain ⟨written, hwritten, hversion'⟩ := hguarded.guarded _ _ _ haccepted
  obtain ⟨hspec, hgeneration⟩ :=
    hguarded.told _ _ _ _ hcurrent' hwritten (hversion.trans hversion'.symm)
  have hstates := states_survey hx
  refine ⟨c, current, written, hc, hcurrent', hwritten, hspec, hgeneration, hstates, ?_, ?_⟩
  · intro hspec' hgeneration'
    exact hstates.congr (hspec'.trans hspec) (hgeneration'.trans hgeneration)
  · intro hwrittenStates
    exact (hstates.generation_eq hwrittenStates).trans hgeneration.symm

/-! ## A stale status -/

/-- A declaration of one replica, and its update to two. -/
def overtakenCluster (updated : Bool) : Cluster where
  metadata :=
    { name := some "broker", ns := some "test-ns", generation := some (if updated then 2 else 1),
                resourceVersion := some (if updated then "2" else "1") }
  spec := { deploymentPlan := { size := if updated then 2 else 1 } }

/-- A store in which the cluster is updated while the pods are listed. -/
def overtakingStore : Handler surroundings Bool
  | .getCluster _, updated => (.ok (some (overtakenCluster updated)), updated)
  | .listPods _ _, _ => (.ok [], true)
  | .provision _ _, updated => (.ok (), updated)
  | .patchClusterStatus _ version _, updated =>
    (if version = (overtakenCluster updated).metadata.resourceVersion then .ok ()
      else .error (.api .unreadable), updated)
  | r, updated => (r.refusal, updated)

theorem guarded_overtakingStore (key : ObjectKey) :
    Guarded overtakingStore key fun updated => some (overtakenCluster updated) where
  found _ := rfl
  guarded version status updated h := by
    by_cases hversion : some version = (overtakenCluster updated).metadata.resourceVersion
    · exact ⟨_, rfl, hversion.symm⟩
    · simp [overtakingStore, hversion] at h
  versioned updated c h := by
    cases h
    rfl
  told updated updated' c c' h h' hversion := by
    cases h
    cases h'
    cases updated <;> cases updated' <;>
      first | exact ⟨rfl, rfl⟩ | exact absurd hversion (by decide)

/-- A pass gets a status accepted that states one replica, at generation 1, for a cluster that was
updated to two before the write. -/
theorem stale_status_accepted :
    ∃ st, acceptedIn (Task.transcript overtakingStore (run {} .empty ⟨"test-ns", "broker"⟩) false) =
      [st] ∧
      States st (overtakenCluster false) ∧ ¬ States st (overtakenCluster true) := by
  have hone :
      (acceptedIn (Task.transcript overtakingStore
        (run {} .empty ⟨"test-ns", "broker"⟩) false)).length = 1 := by decide +kernel
  obtain ⟨st, hst⟩ := List.length_eq_one_iff.mp hone
  obtain ⟨c, -, -, hc, -, -, -, -, hstates, -⟩ := accepted_states_first_reading
    (guarded_overtakingStore _) (hst ▸ List.mem_singleton_self st)
  cases hc
  refine ⟨st, hst, hstates, fun hupdated => ?_⟩
  exact absurd (hstates.generation_eq hupdated) (by decide)

end ClusterPass

end BrokerFleet
