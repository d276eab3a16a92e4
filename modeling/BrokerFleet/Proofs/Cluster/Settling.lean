import BrokerFleet.Proofs.Cluster.Survey

/-! # Passes that settle

Where nothing changes but the clock and what a patch of the status changes, the first pass commits
the projected status unless it is persisted already, and no later pass commits anything: projecting
from what was projected comes to the same status. -/

namespace BrokerFleet

/-- What a patch of the status changes about a cluster object. -/
structure StatusRecord where
  resourceVersion : Option String
  managedFields : Option (List Json)
  status : Option ClusterStatus

/-- A declared cluster with what the patches of its status left. -/
def Cluster.holding (c : Cluster) (r : StatusRecord) : Cluster :=
  { c with
    metadata := { c.metadata with
      resourceVersion := r.resourceVersion
      managedFields := r.managedFields }
    status := r.status }

/-- Whether a request of a pass leaves the status of the cluster alone. -/
def Request.leavesStatus : Request → Bool
  | .getCluster _ | .provision _ _ | .clock => true
  | r => r.looksAround

theorem Request.leavesStatus_of_looksAround {r : Request} (hr : r.looksAround = true) :
    r.leavesStatus = true := by
  cases r <;> first | rfl | cases hr

/-- The status that a request patches in, if it does. -/
def patchedStatus? : surroundings.Reply → Option ClusterStatus
  | ⟨.patchClusterStatus _ _ status, _⟩ => some status
  | _ => none

def patchesIn (log : List surroundings.Reply) : List ClusterStatus := log.filterMap patchedStatus?

theorem patchesIn_append (xs ys : List surroundings.Reply) :
    patchesIn (xs ++ ys) = patchesIn xs ++ patchesIn ys := List.filterMap_append

theorem patchesIn_eq_nil {log : List surroundings.Reply} (h : ∀ x ∈ log, x.1.leavesStatus = true) :
    patchesIn log = [] := by
  rw [patchesIn, List.filterMap_eq_nil_iff]
  rintro ⟨r, a⟩ hx
  cases r <;> first | rfl | cases h _ hx

/-! ## The same status -/

namespace ClusterStatus

variable {s t u : ClusterStatus}

/-- Times of conditions do not tell two statuses apart. -/
theorem same_congr (s : ClusterStatus) (hsize : t.deploymentPlanSize = u.deploymentPlanSize)
    (hselector : t.scaleLabelSelector = u.scaleLabelSelector) (hversion : t.version = u.version)
    (hconfigs : t.externalConfigs = u.externalConfigs) (hpods : t.podStatus = u.podStatus)
    (hconditions : t.conditions.map Condition.untimed = u.conditions.map Condition.untimed) :
    s.same t = s.same u := by
  simp only [same, hsize, hselector, hversion, hconfigs, hpods,
    Condition.allSame_congr s.conditions hconditions]

theorem same_self (hnodup : (s.conditions.map Condition.type).Nodup) : s.same s = true := by
  simp [same, Condition.allSame_self hnodup]

theorem perm_of_same (hnodup : (s.conditions.map Condition.type).Nodup) (hsame : s.same t = true) :
    (s.conditions.map Condition.type).Perm (t.conditions.map Condition.type) := by
  simp only [same, Bool.and_eq_true] at hsame
  exact Condition.perm_of_allSame hnodup hsame.2

end ClusterStatus

namespace ClusterPass

open Condition (untimed)

variable {σ : Type} {h : Handler surroundings σ} {config : Config} {registry : HandlerRegistry}
  {key : ObjectKey} {c : Cluster} {answer : (r : Request) → r.Answer} {held : σ → StatusRecord}
  {Q : σ → Prop} {s : σ}

/-! ## What a pass projects -/

/-- Whether a status holds no two conditions of a type. -/
def Single (status : Option ClusterStatus) : Prop :=
  ∀ st, status = some st → (st.conditions.map Condition.type).Nodup

/-- What the looks of a pass come to: the result of the checks, the answer to provisioning, and what
is observed. -/
structure Outlook where
  result : Except Finding Unit
  provisioned : Except Failure Unit
  observed : Observed

/-- The survey of a cluster with such an outlook, by the times that the clock shows. -/
def Outlook.survey (o : Outlook) (c : Cluster) (validated now : String) : Survey where
  cluster := c
  validation := Validity.outcome validated c.generation o.result
  provisioned := o.provisioned
  observed := o.observed
  now := now

variable {o : Outlook} {validated validated' now now' : String}

theorem untimed_outcome (validated validated' : String) (generation : Int64)
    (result : Except Finding Unit) :
    (Validity.outcome validated generation result).condition.untimed =
      (Validity.outcome validated' generation result).condition.untimed := by
  cases result <;> rfl

/-- The clock does not show in whether a status is the same as the projected one. -/
theorem same_survey (o : Outlook) (c : Cluster) (s : ClusterStatus)
    (validated now validated' now' : String) :
    s.same (o.survey c validated now).status = s.same (o.survey c validated' now').status :=
  ClusterStatus.same_congr s rfl rfl rfl rfl rfl
    (Projection.map_untimed_conditions (untimed_outcome ..)
      (Projection.untimed_deployed ..) now now' _ _)

theorem types_survey (hsingle : Single c.status) :
    ((o.survey c validated now).status.conditions.map Condition.type).Perm Projection.statedTypes :=
  Projection.perm_types_conditions (type_outcome ..) (Projection.type_deployed ..) hsingle _ _

theorem single_survey (hsingle : Single c.status) :
    ((o.survey c validated now).status.conditions.map Condition.type).Nodup :=
  (types_survey hsingle).nodup_iff.mpr (by decide)

/-- Projecting once more, from what was projected, comes to the same status. -/
theorem survey_survey (hsingle : Single c.status) {r : StatusRecord}
    (hr : r.status = some (o.survey c validated now).status) (validated' now' : String) :
    (o.survey c validated now).status.same
    (o.survey (c.holding r) validated' now').status = true := by
  have hconditions : (o.survey (c.holding r) validated' now').status.conditions =
      (o.survey c validated now).status.conditions := by
    change Projection.conditions now' c.generation r.status _ _ = _
    rw [hr]
    exact Projection.conditions_conditions (type_outcome ..) (Projection.type_deployed ..)
      (untimed_outcome ..) (Projection.untimed_deployed ..) rfl now'
  calc (o.survey c validated now).status.same (o.survey (c.holding r) validated' now').status
      = (o.survey c validated now).status.same (o.survey c validated now).status :=
        ClusterStatus.same_congr _ rfl rfl rfl rfl rfl (congrArg (List.map untimed) hconditions)
    _ = true := ClusterStatus.same_self (single_survey hsingle)

/-- The cluster is valid, and deployed as planned. -/
def Outlook.Sound (o : Outlook) (c : Cluster) : Prop :=
  let size := c.spec.deploymentPlan.size
  let pods := Projection.summarize (ClusterNames.ofCluster c) size o.observed.pods
  (Validity.outcome "" c.generation o.result).condition.isTrue = true ∧
    (Projection.deployed "" size pods (o.survey c "" "").error?).isTrue = true

/-- Whether a projected status has settled is told by the outlook alone. -/
theorem isQuiescent_survey (hsingle : Single c.status) :
    (o.survey c validated now).status.isQuiescent = true ↔ o.Sound c := by
  refine (Projection.ready_iff_holds (type_outcome ..) (Projection.type_deployed ..) hsingle
    now _).trans ?_
  have hvalid := Condition.isTrue_of_untimed (untimed_outcome validated "" c.generation o.result)
  have hdeployed := Condition.isTrue_of_untimed (Projection.untimed_deployed now ""
    c.spec.deploymentPlan.size
    (Projection.summarize (ClusterNames.ofCluster c) c.spec.deploymentPlan.size o.observed.pods)
    (o.survey c "" "").error?)
  exact and_congr (by rw [← hvalid]) (by rw [← hdeployed]; rfl)

/-- What is projected depends on the earlier status, and on nothing else that a patch changes. -/
theorem status_survey_holding (o : Outlook) {r : StatusRecord} (hr : r.status = c.status)
    (validated now : String) :
    (o.survey (c.holding r) validated now).status = (o.survey c validated now).status := by
  change Projection.project now (c.holding r) r.status _ _ _ =
    Projection.project now c c.status _ _ _
  rw [hr]
  rfl

/-! ## Commits of what is projected -/

/-- What the commit of a status does to the status that is held: it leaves the same one alone, and
patches another one away. -/
inductive Commits (status : ClusterStatus) :
    Option ClusterStatus → List ClusterStatus → Option ClusterStatus → Prop where
  | unchanged {st : ClusterStatus} (hsame : st.same status = true) :
      Commits status (some st) [] (some st)
  | patched {old : Option ClusterStatus} (hother : ∀ st, old = some st → st.same status = false) :
      Commits status old [status] (some status)

/-- A status that no further pass replaces: it is the same as what any further pass projects. -/
def Settled (o : Outlook) (c : Cluster) (r : StatusRecord) : Prop :=
  ∃ st, r.status = some st ∧
    ∀ validated now, st.same (o.survey (c.holding r) validated now).status = true

namespace Commits

variable {status : ClusterStatus} {old new : Option ClusterStatus} {patches : List ClusterStatus}

theorem length_le (hcommits : Commits status old patches new) : patches.length ≤ 1 := by
  cases hcommits with
  | unchanged _ => exact Nat.zero_le 1
  | patched _ => exact Nat.le_refl 1

theorem silent {st : ClusterStatus} (hcommits : Commits status (some st) patches new)
    (hsame : st.same status = true) : patches = [] := by
  cases hcommits with
  | unchanged _ => rfl
  | patched hother =>
    rw [hother st rfl] at hsame
    cases hsame

/-- A commit of what a survey projects leaves the same status, with one condition of each stated
type. -/
theorem left (hsingle : Single c.status)
    (hcommits : Commits (o.survey c validated now).status c.status patches new) :
    ∃ st, new = some st ∧ st.same (o.survey c validated now).status = true ∧
      (st.conditions.map Condition.type).Perm Projection.statedTypes := by
  generalize hold : c.status = old at hcommits
  cases hcommits with
  | @unchanged st hsame =>
    exact ⟨st, rfl, hsame, (ClusterStatus.perm_of_same (hsingle st hold) hsame).trans
      (types_survey hsingle)⟩
  | patched _ =>
    exact ⟨_, rfl, ClusterStatus.same_self (single_survey hsingle), types_survey hsingle⟩

/-- It settles the status. -/
theorem settles (hsingle : Single c.status) {r : StatusRecord}
    (hcommits : Commits (o.survey c validated now).status c.status patches r.status) :
    Settled o c r := by
  generalize hold : c.status = old, hnew : r.status = new at hcommits
  cases hcommits with
  | @unchanged st hsame =>
    refine ⟨st, hnew, fun validated' now' => ?_⟩
    rw [status_survey_holding o (hnew.trans hold.symm), same_survey o c st _ _ validated now, hsame]
  | patched _ => exact ⟨_, hnew, survey_survey hsingle hnew⟩

end Commits

/-! ## Surroundings in which nothing else changes -/

/-- Surroundings that answer every look and every provisioning alike, hold a cluster with what the
patches of its status left, and accept those patches. The clock may show any time. -/
structure Steady (h : Handler surroundings σ) (key : ObjectKey) (c : Cluster)
    (answer : (r : Request) → r.Answer) (held : σ → StatusRecord) (Q : σ → Prop) : Prop where
  found : ∀ s, Q s → (h (.getCluster key) s).1 = .ok (some (c.holding (held s)))
  alike : ∀ r : Request, r.looksAround = true → ∀ s, Q s → (h r s).1 = answer r
  provisioned : ∀ handler s, Q s →
    (h (.provision (c.holding (held s)) handler) s).1 = answer (.provision c handler)
  leaves : ∀ r : Request, r.leavesStatus = true → ∀ s, Q s → Q (h r s).2 ∧ held (h r s).2 = held s
  accepts : ∀ status s, Q s →
    let patch : Request := .patchClusterStatus key (held s).resourceVersion status
    (h patch s).1 = .ok () ∧ Q (h patch s).2 ∧ (held (h patch s).2).status = some status

/-- Surroundings that only answer. -/
def answering (answer : (r : Request) → r.Answer) : Handler surroundings Unit :=
  fun r _ => (answer r, ())

namespace Steady

variable (hsteady : Steady h key c answer held Q) (hs : Q s)

include hsteady hs

/-- What leaves the status alone keeps the surroundings as they are. -/
theorem stays {α : Type} {t : Task α} (ht : t.run.Asks fun r : Request => r.leavesStatus = true) :
    Q (Task.after h t s) ∧ held (Task.after h t s) = held s :=
  ht.preserves (Q := fun s' => Q s' ∧ held s' = held s)
    (fun r hr s' ⟨hs', hheld⟩ =>
      have hleaves := hsteady.leaves r hr s' hs'
      ⟨hleaves.1, hleaves.2.trans hheld⟩) ⟨hs, rfl⟩

/-- Looking around comes to the same in every state. -/
theorem outcome_eq {α : Type} {t : Task α} (ht : Inspecting t.run) :
    Task.outcome h t s = Task.outcome (answering answer) t () := by
  obtain ⟨hvalue, -, -⟩ := ht.asks.run_congr h (answering answer) (fun s _ => Q s)
    (fun r hr s _ hs' =>
      ⟨hsteady.alike r hr s hs',
        (hsteady.leaves r (Request.leavesStatus_of_looksAround hr) s hs').1⟩) hs
  exact hvalue

theorem validate_eq (config : Config) :
    (∀ e, Task.outcome (answering answer) (Validity.checks config c).run () = .error e →
      Task.outcome h (Validity.validate config (c.holding (held s))) s = .error e) ∧
    ∀ result, Task.outcome (answering answer) (Validity.checks config c).run () = .ok result →
      ∃ validated, Task.outcome h (Validity.validate config (c.holding (held s))) s =
        .ok (Validity.outcome validated c.generation result) := by
  have hchecks : Task.outcome h (Validity.checks config (c.holding (held s))).run s =
      Task.outcome (answering answer) (Validity.checks config c).run () :=
    hsteady.outcome_eq hs (Validity.looks_checks config c)
  rw [← hchecks, Validity.validate]
  refine ⟨fun e he => Task.outcome_bind_error _ he, fun result hresult => ?_⟩
  rw [Task.outcome_bind_ok _ hresult, Task.outcome_bind_ok _ (Task.outcome_lift _ _ _)]
  exact ⟨_, rfl⟩

theorem process_eq (registry : HandlerRegistry) (v : Validation) :
    Task.outcome h (process registry key (c.holding (held s)) v) s =
      .ok (if v.isValid then answer (.provision c (registry.lookup key)) else .ok ()) := by
  rw [outcome_process, ClusterPass.provisioned, hsteady.provisioned _ s hs]

theorem view_eq (v : Validation) (provisioned : Except Failure Unit) :
    (∀ e, Task.outcome (answering answer) (Projection.observe c) () = .error e →
      Task.outcome h (view (c.holding (held s)) v provisioned) s = .error e) ∧
    ∀ observed, Task.outcome (answering answer) (Projection.observe c) () = .ok observed →
      ∃ now, Task.outcome h (view (c.holding (held s)) v provisioned) s =
        .ok ⟨c.holding (held s), v, provisioned, observed, now⟩ := by
  have hobserve : Task.outcome h (Projection.observe (c.holding (held s))) s =
      Task.outcome (answering answer) (Projection.observe c) () :=
    hsteady.outcome_eq hs (Projection.inspecting_observe c)
  rw [← hobserve, view]
  refine ⟨fun e he => Task.outcome_bind_error _ he, fun observed hobserved => ?_⟩
  rw [Task.outcome_bind_ok _ hobserved, Task.outcome_bind_ok _ (Task.outcome_lift _ _ _)]
  exact ⟨_, rfl⟩

end Steady

/-- The outlook of a cluster, by the answers to what a pass looks at. -/
def forecast (config : Config) (registry : HandlerRegistry) (key : ObjectKey) (c : Cluster)
    (answer : (r : Request) → r.Answer) : Except Failure Outlook := do
  let result ← Task.outcome (answering answer) (Validity.checks config c).run ()
  let valid := (Validity.outcome "" c.generation result).isValid
  let provisioned := if valid then answer (.provision c (registry.lookup key)) else .ok ()
  let observed ← Task.outcome (answering answer) (Projection.observe c) ()
  pure { result, provisioned, observed }

/-- An inspection that fails comes to the failure of one of its looks. -/
theorem lookFailed_of_inspecting {α : Type} {t : Task α} (ht : Inspecting t.run) {e : Failure}
    (he : Task.outcome (answering answer) t () = .error e) :
    ∃ r : Request, r.looksAround = true ∧ r.readFailure? (answer r) = some e := by
  obtain ⟨x, hx, hfailure⟩ := ht.reading.failure he
  have hlook := ht.asks.transcript (answering answer) () x hx
  have hanswer : x.2 = answer x.1 :=
    Program.forall_transcript (P := fun x => x.2 = answer x.1) (fun _ _ => rfl) _ _ x hx
  exact ⟨x.1, hlook, hanswer ▸ hfailure⟩

theorem lookFailed_of_unforeseen {e : Failure}
    (he : forecast config registry key c answer = .error e) :
    ∃ r : Request, r.looksAround = true ∧ r.readFailure? (answer r) = some e := by
  unfold forecast at he
  cases hresult : Task.outcome (answering answer) (Validity.checks config c).run () with
  | error e' =>
    rw [hresult] at he
    cases he
    exact lookFailed_of_inspecting (Validity.looks_checks config c) hresult
  | ok result =>
    cases hobserved : Task.outcome (answering answer) (Projection.observe c) () with
    | error e' =>
      rw [hresult, hobserved] at he
      cases he
      exact lookFailed_of_inspecting (Projection.inspecting_observe c) hobserved
    | ok observed =>
      rw [hresult, hobserved] at he
      cases he

/-! ## What a survey leaves alone -/

theorem asks_clock : (Task.lift readClock).run.Asks fun r : Request => r.leavesStatus = true :=
  Task.asks_lift ⟨rfl, fun _ => trivial⟩

theorem asks_validated (config : Config) (c : Cluster) :
    (Validity.validate config c).run.Asks fun r : Request => r.leavesStatus = true := by
  have hchecks : (Validity.checks config c).run.run.Asks fun r : Request => r.leavesStatus = true :=
    (Validity.looks_checks config c).asks.mono fun _ => Request.leavesStatus_of_looksAround
  exact Task.asks_bind hchecks fun _ => Task.asks_bind asks_clock fun _ => trivial

theorem asks_process (registry : HandlerRegistry) (key : ObjectKey) (c : Cluster) (v : Validation) :
    (process registry key c v).run.Asks fun r : Request => r.leavesStatus = true := by
  unfold process
  split
  · exact Task.asks_lift ⟨rfl, fun _ => trivial⟩
  · trivial

theorem asks_survey (config : Config) (registry : HandlerRegistry) (key : ObjectKey) (c : Cluster) :
    (survey config registry key c).run.Asks fun r : Request => r.leavesStatus = true := by
  have hobserve : (Projection.observe c).run.Asks fun r : Request => r.leavesStatus = true :=
    (Projection.inspecting_observe c).asks.mono fun _ => Request.leavesStatus_of_looksAround
  exact Task.asks_bind (asks_validated config c) fun v =>
    Task.asks_bind (asks_process registry key c v)
    fun _ => Task.asks_bind hobserve fun _ => Task.asks_bind asks_clock fun _ => trivial

theorem patchesIn_survey (config : Config) (registry : HandlerRegistry) (key : ObjectKey)
    (c : Cluster) (s : σ) : patchesIn (Task.transcript h (survey config registry key c) s) = [] :=
  patchesIn_eq_nil ((asks_survey config registry key c).transcript h s)

namespace Steady

variable (hsteady : Steady h key c answer held Q) (hs : Q s)

include hsteady hs

/-- In such surroundings a survey comes to the forecast, whatever the clock shows. -/
theorem survey_eq (config : Config) (registry : HandlerRegistry) :
    (∀ e, forecast config registry key c answer = .error e →
      Task.outcome h (survey config registry key (c.holding (held s))) s = .error e) ∧
    ∀ o, forecast config registry key c answer = .ok o → ∃ validated now,
      Task.outcome h (survey config registry key (c.holding (held s))) s =
        .ok (o.survey (c.holding (held s)) validated now) := by
  obtain ⟨hfailed, hvalidated⟩ := hsteady.validate_eq hs config
  cases hresult : Task.outcome (answering answer) (Validity.checks config c).run () with
  | error e' =>
    have hforecast : forecast config registry key c answer = .error e' := by
      rw [forecast, hresult]
      rfl
    rw [survey, Task.outcome_bind_error _ (hfailed e' hresult), hforecast]
    exact ⟨fun e he => by cases he; rfl, fun o ho => by cases ho⟩
  | ok result =>
    obtain ⟨validated, hv⟩ := hvalidated result hresult
    -- the state in which the cluster is provisioned, and the one in which it is observed
    obtain ⟨hs₁, hheld₁⟩ := hsteady.stays hs (asks_validated config (c.holding (held s)))
    obtain ⟨hs₂, hheld₂⟩ := hsteady.stays hs₁ (asks_process registry key (c.holding (held s))
      (Validity.outcome validated c.generation result))
    have hvalid : (Validity.outcome validated c.generation result).isValid =
        (Validity.outcome "" c.generation result).isValid :=
      Condition.isTrue_of_untimed (untimed_outcome ..)
    have hprocess :=
      hsteady.process_eq hs₁ registry (Validity.outcome validated c.generation result)
    rw [hheld₁, hvalid] at hprocess
    have hview := hsteady.view_eq hs₂ (Validity.outcome validated c.generation result)
      (if (Validity.outcome "" c.generation result).isValid then
        answer (.provision c (registry.lookup key)) else .ok ())
    rw [hheld₂, hheld₁] at hview
    rw [survey, Task.outcome_bind_ok _ hv, Task.outcome_bind_ok _ hprocess]
    cases hobserved : Task.outcome (answering answer) (Projection.observe c) () with
    | error e' =>
      have hforecast : forecast config registry key c answer = .error e' := by
        rw [forecast, hresult, hobserved]
        rfl
      rw [hview.1 e' hobserved, hforecast]
      exact ⟨fun e he => by cases he; rfl, fun o ho => by cases ho⟩
    | ok observed =>
      have hforecast : forecast config registry key c answer = .ok {
          result
          provisioned := if (Validity.outcome "" c.generation result).isValid then
            answer (.provision c (registry.lookup key)) else .ok ()
          observed } := by
        rw [forecast, hresult, hobserved]
        rfl
      obtain ⟨now, hnow⟩ := hview.2 observed hobserved
      rw [hnow, hforecast]
      refine ⟨fun e he => (by cases he), fun o ho => ?_⟩
      cases ho
      exact ⟨validated, now, rfl⟩

/-! ## One pass -/

/-- A commit of a status writes it exactly if another one is held. -/
theorem commits (status : ClusterStatus) :
    Task.outcome h (commit key status) s = .ok () ∧ Q (Task.after h (commit key status) s) ∧
      Commits status (held s).status (patchesIn (Task.transcript h (commit key status) s))
        (held (Task.after h (commit key status) s)).status := by
  have hfound : (h (.getCluster key) s).1 = .ok (some (c.holding (held s))) := hsteady.found s hs
  obtain ⟨hs₁, hheld₁⟩ := hsteady.leaves (.getCluster key) rfl s hs
  cases committed h key status s with
  | unread hread houtcome hasked hafter =>
    rw [hfound] at hread
    cases hread
  | unwritten hread hsame houtcome hasked hafter =>
    rw [hfound] at hread
    have hcurrent := hsame _ (Except.ok.inj hread).symm
    rw [hasked, hafter, hheld₁]
    refine ⟨houtcome, hs₁, ?_⟩
    change Commits status (held s).status [] (held s).status
    cases hst : (held s).status with
    | none => simp [Cluster.holding, hst] at hcurrent
    | some st => exact .unchanged (by simpa [Cluster.holding, hst] using hcurrent)
  | @patched current answered s' hread hother hanswered houtcome hasked hafter =>
    rw [hfound] at hread
    cases hread
    obtain ⟨hwritten, hs₂, hheld₂⟩ := hsteady.accepts status _ hs₁
    rw [hheld₁] at hwritten hs₂ hheld₂
    replace hanswered : h (.patchClusterStatus key (held s).resourceVersion status)
        (h (.getCluster key) s).2 = (answered, s') := hanswered
    rw [hanswered] at hwritten hs₂ hheld₂
    have haccepted : answered = .ok () := hwritten
    have hothers : ∀ st, (held s).status = some st → st.same status = false := by
      intro st hst
      simpa [Cluster.holding, hst] using hother
    have hcommits : Commits status (held s).status [status] (some status) := .patched hothers
    rw [houtcome, haccepted, hasked, hafter]
    exact ⟨rfl, hs₂, hheld₂ ▸ hcommits⟩

end Steady

/-- What a pass comes to after its commit. -/
def Survey.ending (config : Config) (x : Survey) : Except Failure Action :=
  match x.provisioned with
  | .error e => .error e
  | .ok _ => .ok (next config x.cluster x.validation x.status)

theorem conclude_eq (config : Config) (x : Survey) (s : σ) :
    Task.outcome h (x.conclude config) s = x.ending config ∧
      Task.after h (x.conclude config) s = s ∧ Task.transcript h (x.conclude config) s = [] := by
  unfold Survey.conclude Survey.ending
  cases x.provisioned <;> exact ⟨rfl, rfl, rfl⟩

theorem after_settle (config : Config) (key : ObjectKey) (x : Survey) (s : σ) :
    Task.after h (settle config key x) s = Task.after h (commit key x.status) s := by
  rw [settle]
  cases hcommit : Task.outcome h (commit key x.status) s with
  | error e => rw [Task.after_bind_error _ hcommit]
  | ok _ => rw [Task.after_bind_ok _ hcommit, (conclude_eq config x _).2.1]

/-- After its commit a pass asks for nothing. -/
theorem transcript_settle (config : Config) (key : ObjectKey) (x : Survey) (s : σ) :
    Task.transcript h (settle config key x) s = Task.transcript h (commit key x.status) s := by
  rw [settle]
  cases hcommit : Task.outcome h (commit key x.status) s with
  | error e => rw [Task.transcript_bind_error _ hcommit]
  | ok _ => rw [Task.transcript_bind_ok _ hcommit, (conclude_eq config x _).2.2, List.append_nil]

/-- What a pass comes to is told by the outlook, whatever the clock shows and the patches left. -/
theorem ending_eq (config : Config) (o : Outlook) (c : Cluster) {r r' : StatusRecord}
    (hr : Single r.status) (hr' : Single r'.status) (validated now validated' now' : String) :
    (o.survey (c.holding r) validated now).ending config =
      (o.survey (c.holding r') validated' now').ending config := by
  have hquiescent : (o.survey (c.holding r) validated now).status.isQuiescent =
      (o.survey (c.holding r') validated' now').status.isQuiescent := by
    rw [Bool.eq_iff_iff, isQuiescent_survey (c := c.holding r) hr,
      isQuiescent_survey (c := c.holding r') hr']
    rfl
  have hretry : (o.survey (c.holding r) validated now).validation.retry =
      (o.survey (c.holding r') validated' now').validation.retry := by
    change (Validity.outcome _ _ o.result).retry = (Validity.outcome _ _ o.result).retry
    cases o.result <;> rfl
  change (match o.provisioned with
    | .error e => Except.error e
    | .ok _ => .ok (next config (c.holding r) _ _)) = (match o.provisioned with
    | .error e => Except.error e
    | .ok _ => .ok (next config (c.holding r') _ _))
  simp only [next, hquiescent, hretry]
  rfl

namespace Steady

variable (hsteady : Steady h key c answer held Q) (hs : Q s)

include hsteady hs

/-- Where a look fails, every pass fails alike and leaves the status alone. -/
theorem run_of_unforeseen {e : Failure} (he : forecast config registry key c answer = .error e) :
    Task.outcome h (run config registry key) s = .error e ∧
      patchesIn (Task.transcript h (run config registry key) s) = [] ∧
      Q (Task.after h (run config registry key) s) ∧
      held (Task.after h (run config registry key) s) = held s := by
  have hfound := hsteady.found s hs
  rw [(run_of_cluster hfound).1, (run_of_cluster hfound).2, after_run_of_cluster hfound]
  obtain ⟨hs₁, hheld₁⟩ := hsteady.leaves (.getCluster key) rfl s hs
  generalize (h (.getCluster key) s).2 = s₁ at hs₁ hheld₁
  have hsurvey := (hsteady.survey_eq hs₁ config registry).1 e he
  obtain ⟨hs₂, hheld₂⟩ := hsteady.stays hs₁ (asks_survey config registry key (c.holding (held s)))
  rw [hheld₁] at hsurvey hheld₂
  rw [passOver, Task.outcome_bind_error _ hsurvey, Task.after_bind_error _ hsurvey,
    Task.transcript_bind_error _ hsurvey]
  exact ⟨rfl, patchesIn_survey config registry key (c.holding (held s)) s₁, hs₂, hheld₂⟩

/-- Otherwise a pass commits what its survey projects. -/
theorem run_of_forecast (ho : forecast config registry key c answer = .ok o) :
    ∃ validated now, let x := o.survey (c.holding (held s)) validated now
      Task.outcome h (survey config registry key (c.holding (held s))) (h (.getCluster key) s).2 =
        .ok x ∧
      Task.outcome h (run config registry key) s = x.ending config ∧
      Q (Task.after h (run config registry key) s) ∧
      Commits x.status (held s).status (patchesIn (Task.transcript h (run config registry key) s))
        (held (Task.after h (run config registry key) s)).status := by
  have hfound := hsteady.found s hs
  rw [(run_of_cluster hfound).1, (run_of_cluster hfound).2, after_run_of_cluster hfound]
  obtain ⟨hs₁, hheld₁⟩ := hsteady.leaves (.getCluster key) rfl s hs
  generalize (h (.getCluster key) s).2 = s₁ at hs₁ hheld₁
  obtain ⟨validated, now, hsurvey⟩ := (hsteady.survey_eq hs₁ config registry).2 o ho
  obtain ⟨hs₂, hheld₂⟩ := hsteady.stays hs₁ (asks_survey config registry key (c.holding (held s)))
  rw [hheld₁] at hsurvey hheld₂
  refine ⟨validated, now, hsurvey, ?_⟩
  obtain ⟨hcommit, hs₃, hcommits⟩ :=
    hsteady.commits hs₂ (o.survey (c.holding (held s)) validated now).status
  rw [hheld₂] at hcommits
  obtain ⟨hending, hlast, hsilent⟩ := conclude_eq (h := h) config
    (o.survey (c.holding (held s)) validated now) (Task.after h
      (commit key (o.survey (c.holding (held s)) validated now).status)
      (Task.after h (survey config registry key (c.holding (held s))) s₁))
  rw [passOver, Task.outcome_bind_ok _ hsurvey, Task.after_bind_ok _ hsurvey,
    Task.transcript_bind_ok _ hsurvey, settle, Task.outcome_bind_ok _ hcommit,
    Task.after_bind_ok _ hcommit, Task.transcript_bind_ok _ hcommit, hending, hlast, hsilent,
    List.append_nil, ← List.singleton_append, patchesIn_append, patchesIn_append, patchesIn_survey,
    List.nil_append]
  exact ⟨rfl, hs₃, hcommits⟩

end Steady

/-! ## Successive passes -/

/-- The state before a pass, when passes over a cluster follow each other. -/
def before (h : Handler surroundings σ) (config : Config) (registry : HandlerRegistry)
    (key : ObjectKey) (s : σ) : Nat → σ
  | 0 => s
  | n + 1 => Task.after h (run config registry key) (before h config registry key s n)

/-- The statuses that the first `n` passes patch in, in order. -/
def patchesWithin (h : Handler surroundings σ) (config : Config) (registry : HandlerRegistry)
    (key : ObjectKey) (s : σ) (n : Nat) : List ClusterStatus :=
  (List.range n).flatMap fun i =>
    patchesIn (Task.transcript h (run config registry key) (before h config registry key s i))

theorem patchesWithin_succ (n : Nat) :
    patchesWithin h config registry key s (n + 1) = patchesWithin h config registry key s n ++
      patchesIn (Task.transcript h (run config registry key)
        (before h config registry key s n)) := by
  simp [patchesWithin, List.range_succ]

namespace Steady

variable (hsteady : Steady h key c answer held Q) (hs : Q s)

include hsteady hs

/-- Passes that fail to look leave everything as it is. -/
theorem before_of_unforeseen {e : Failure} (he : forecast config registry key c answer = .error e)
    (n : Nat) :
    Q (before h config registry key s n) ∧ held (before h config registry key s n) = held s ∧
      patchesWithin h config registry key s n = [] := by
  induction n with
  | zero => exact ⟨hs, rfl, rfl⟩
  | succ n ih =>
    obtain ⟨hn, hheld, hpatches⟩ := ih
    obtain ⟨-, hsilent, hn', hheld'⟩ := hsteady.run_of_unforeseen hn he
    refine ⟨hn', hheld'.trans hheld, ?_⟩
    rw [patchesWithin_succ, hpatches, hsilent, List.append_nil]

/-- Once a pass is over, the status has settled, and the passes before made at most one patch. -/
theorem before_of_forecast (hsingle : Single (held s).status)
    (ho : forecast config registry key c answer = .ok o) (n : Nat) :
    Q (before h config registry key s n) ∧ Single (held (before h config registry key s n)).status ∧
      (n = 0 ∨ Settled o c (held (before h config registry key s n))) ∧
      (patchesWithin h config registry key s n).length ≤ min n 1 := by
  induction n with
  | zero => exact ⟨hs, hsingle, .inl rfl, Nat.le_refl _⟩
  | succ n ih =>
    obtain ⟨hn, hsingle', hsettled, hpatches⟩ := ih
    obtain ⟨validated, now, -, -, hn', hcommits⟩ := hsteady.run_of_forecast hn ho
    obtain ⟨st, hst, -, htypes⟩ := hcommits.left (c := c.holding _) hsingle'
    refine ⟨hn', ?_, .inr (hcommits.settles (c := c.holding _) hsingle'), ?_⟩
    · intro st' hst'
      cases hst.symm.trans hst'
      exact htypes.nodup_iff.mpr (by decide)
    · rw [patchesWithin_succ, List.length_append]
      obtain rfl | ⟨st, hst, hsettled⟩ := hsettled
      · exact Nat.add_le_add hpatches hcommits.length_le
      · -- what this pass projects is held already
        rw [hst] at hcommits
        rw [hcommits.silent (hsettled validated now)]
        exact Nat.le_trans hpatches (by omega)

end Steady

/-- Passes over a steady cluster make at most one patch of the status altogether and all come to the
same. Each leaves a status that is the same as the one it projected, with one condition of each
stated type, or fails by the failure of a look. -/
theorem run_settles (config : Config) (registry : HandlerRegistry)
    (hsteady : Steady h key c answer held Q) (hs : Q s) (hsingle : Single (held s).status)
    (n : Nat) :
    let pass := run config registry key
    let before := before h config registry key s
    (patchesWithin h config registry key s n).length ≤ 1 ∧
      Task.outcome h pass (before n) = Task.outcome h pass s ∧
      ((∃ x st, Task.outcome h (survey config registry key (c.holding (held (before n))))
          (h (.getCluster key) (before n)).2 = .ok x ∧
        (held (before (n + 1))).status = some st ∧ st.same x.status = true ∧
        (st.conditions.map Condition.type).Perm Projection.statedTypes) ∨
      ∃ (r : Request) (e : Failure), r.looksAround = true ∧ r.readFailure? (answer r) = some e ∧
        Task.outcome h pass (before n) = .error e) := by
  cases hforecast : forecast config registry key c answer with
  | error e =>
    obtain ⟨hn, -, hpatches⟩ := hsteady.before_of_unforeseen hs hforecast n
    have hfailed := (hsteady.run_of_unforeseen hn hforecast).1
    obtain ⟨r, hr, hfailure⟩ := lookFailed_of_unforeseen hforecast
    refine ⟨by rw [hpatches]; exact Nat.zero_le _, ?_, .inr ⟨r, e, hr, hfailure, hfailed⟩⟩
    rw [hfailed, (hsteady.run_of_unforeseen hs hforecast).1]
  | ok o =>
    obtain ⟨hn, hsingle', -, hpatches⟩ := hsteady.before_of_forecast hs hsingle hforecast n
    obtain ⟨_, _, hsurvey, houtcome, -, hcommits⟩ := hsteady.run_of_forecast hn hforecast
    obtain ⟨_, _, -, houtcome₀, -, -⟩ := hsteady.run_of_forecast hs hforecast
    obtain ⟨st, hst, hsame, htypes⟩ := hcommits.left (c := c.holding _) hsingle'
    refine ⟨Nat.le_trans hpatches (Nat.min_le_right n 1), ?_,
      .inl ⟨_, st, hsurvey, hst, hsame, htypes⟩⟩
    rw [houtcome, houtcome₀]
    exact ending_eq config o c hsingle' hsingle ..

/-- What the plain store answers. -/
theorem steady_plainStore :
    Steady plainStore plainCluster.key plainCluster (fun r => (plainStore r (0, none)).1)
      (fun s => ⟨none, none, s.2⟩) fun _ => True where
  found _ _ := rfl
  alike r hr _ _ := by cases r <;> first | rfl | cases hr
  provisioned _ _ _ := rfl
  leaves r hr _ _ := by cases r <;> first | exact ⟨trivial, rfl⟩ | cases hr
  accepts _ _ _ := ⟨rfl, trivial, rfl⟩

theorem run_settles_plainStore :
    let before := before plainStore {} .empty plainCluster.key (0, none)
    (patchesWithin plainStore {} .empty plainCluster.key (0, none) 2).length = 1 ∧
      Task.outcome plainStore (run {} .empty plainCluster.key) (before 2) = .ok .awaitChange ∧
      ∃ st : ClusterStatus, (before 3).2 = some st ∧
        (st.conditions.map Condition.type).Perm Projection.statedTypes := by
  obtain ⟨hpatches, houtcome, hleft⟩ :=
    run_settles {} .empty steady_plainStore trivial (s := (0, none)) nofun 2
  have hfirst : Task.outcome plainStore (run {} .empty plainCluster.key) (0, none) =
      .ok .awaitChange := by
    decide +kernel
  obtain ⟨x, st, -, hst, -, htypes⟩ | ⟨r, e, -, -, hfailed⟩ := hleft
  · exact ⟨Nat.le_antisymm hpatches (by decide +kernel), houtcome.trans hfirst, st, hst, htypes⟩
  · rw [houtcome, hfirst] at hfailed
    cases hfailed

end ClusterPass

end BrokerFleet
