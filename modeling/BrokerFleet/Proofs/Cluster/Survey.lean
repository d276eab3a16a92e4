import BrokerFleet.Proofs.Cluster.Inspection
import BrokerFleet.Proofs.Cluster.Projection

/-! # A pass over a cluster

A pass over a cluster that exists surveys it, commits the status that the survey tells, and ends.
The survey provisions a valid cluster once and an invalid one never. A pass waits for a change only
if nothing is left to wait for. -/

namespace BrokerFleet

structure Provision where
  cluster : Cluster
  handler : Option ConfigHandler
  answer : Except Failure Unit

/-- The provisioning that a request was, if it was one. -/
def Provision.ofReply? : surroundings.Reply → Option Provision
  | ⟨.provision c handler, answer⟩ => some ⟨c, handler, answer⟩
  | _ => none

def provisionsIn (log : List surroundings.Reply) : List Provision :=
  log.filterMap Provision.ofReply?

def Request.provisions : Request → Bool
  | .provision _ _ => true
  | _ => false

theorem provisionsIn_append (xs ys : List surroundings.Reply) :
    provisionsIn (xs ++ ys) = provisionsIn xs ++ provisionsIn ys := List.filterMap_append

theorem provisionsIn_eq_nil {log : List surroundings.Reply}
    (h : ∀ x ∈ log, x.1.provisions = false) :
    provisionsIn log = [] := by
  rw [provisionsIn, List.filterMap_eq_nil_iff]
  rintro ⟨r, a⟩ hx
  cases r <;> first | rfl | cases h _ hx

/-- The failure that a reply stands for in a pass: of a reading, of the patch of the status, or of
provisioning. -/
def passFailure? : surroundings.Reply → Option Failure
  | ⟨.patchClusterStatus _ _ _, .error e⟩ => some e
  | ⟨.provision _ _, .error e⟩ => some e
  | x => x.1.readFailure? x.2

/-- What a controller does after a pass. -/
def followUp (config : Config) : Except Failure Action → Action
  | .ok a => a
  | .error e => e.policy config.resyncMillis

namespace ClusterPass

variable {σ : Type} {h : Handler surroundings σ} {config : Config} {registry : HandlerRegistry}
  {key : ObjectKey} {c : Cluster} {v : Validation} {s : σ}

/-! ## The parts of a pass -/

/-- What a pass finds out about a cluster. -/
structure Survey where
  cluster : Cluster
  validation : Validation
  provisioned : Except Failure Unit
  observed : Observed
  now : String

/-- Observes a cluster that was validated and provisioned. -/
def view (c : Cluster) (validation : Validation) (provisioned : Except Failure Unit) :
    Task Survey := do
  let observed ← Projection.observe c
  let now ← Task.lift readClock
  pure { cluster := c, validation, provisioned, observed, now }

/-- Validates a cluster, provisions it if it is valid, and observes it. -/
def survey (config : Config) (registry : HandlerRegistry) (key : ObjectKey) (c : Cluster) :
    Task Survey := do
  let validation ← Validity.validate config c
  let provisioned ← process registry key c validation
  view c validation provisioned

namespace Survey

/-- The failure of provisioning as the status states it. -/
def error? (x : Survey) : Option String :=
  match x.provisioned with
  | .ok _ => none
  | .error e => some e.message

def status (x : Survey) : ClusterStatus :=
  Projection.project x.now x.cluster x.cluster.status x.validation.condition x.error? x.observed

/-- The end of a pass. -/
def conclude (config : Config) (x : Survey) : Task Action :=
  match x.provisioned with
  | .error e => throw e
  | .ok _ => pure (next config x.cluster x.validation x.status)

end Survey

/-- Commits the status of a survey, and ends the pass. -/
def settle (config : Config) (key : ObjectKey) (x : Survey) : Task Action := do
  commit key x.status
  x.conclude config

/-- A pass over a cluster that exists. -/
def passOver (config : Config) (registry : HandlerRegistry) (key : ObjectKey) (c : Cluster) :
    Task Action :=
  survey config registry key c >>= settle config key

theorem run_eq (config : Config) (registry : HandlerRegistry) (key : ObjectKey) :
    run config registry key = Task.getCluster key >>= fun found =>
      match found with
      | none => pure .awaitChange
      | some c => passOver config registry key c := by
  unfold run passOver survey settle
  congr
  funext found
  cases found with
  | none => rfl
  | some c =>
    simp only [view, bind_assoc, pure_bind]
    rfl

/-! ## The survey -/

theorem type_outcome (now : String) (generation : Int64) (result : Except Finding Unit) :
    (Validity.outcome now generation result).condition.type = Condition.valid := by
  cases result <;> rfl

/-- A validation that comes to an outcome states the condition `Valid`. -/
theorem type_validated (hv : Task.outcome h (Validity.validate config c) s = .ok v) :
    v.condition.type = Condition.valid := by
  rw [Validity.validate] at hv
  cases hchecked : Task.outcome h (Validity.checks config c).run s with
  | error e =>
    rw [Task.outcome_bind_error _ hchecked] at hv
    cases hv
  | ok result =>
    rw [Task.outcome_bind_ok _ hchecked, Task.outcome_bind_ok _ (Task.outcome_lift _ _ _),
      Task.outcome_pure] at hv
    obtain rfl := Except.ok.inj hv
    exact type_outcome _ _ _

theorem not_provisions_of_looksAround {r : Request} (hr : r.looksAround = true) :
    r.provisions = false := by
  cases r <;> first | rfl | cases hr

theorem provisionsIn_validate (config : Config) (c : Cluster) (s : σ) :
    provisionsIn (Task.transcript h (Validity.validate config c) s) = [] := by
  have hchecks : (Validity.checks config c).run.run.Asks fun r : Request => r.provisions = false :=
    (Validity.looks_checks config c).asks.mono fun _ => not_provisions_of_looksAround
  have hvalidate : (Validity.validate config c).run.Asks fun r : Request => r.provisions = false :=
    Task.asks_bind hchecks fun _ => Task.asks_bind (Task.asks_lift ⟨rfl, fun _ => trivial⟩)
      fun _ => trivial
  exact provisionsIn_eq_nil (hvalidate.transcript h s)

theorem provisionsIn_view (c : Cluster) (v : Validation) (provisioned : Except Failure Unit)
    (s : σ) :
    provisionsIn (Task.transcript h (view c v provisioned) s) = [] := by
  have hobserve : (Projection.observe c).run.Asks fun r : Request => r.provisions = false :=
    (Projection.inspecting_observe c).asks.mono fun _ => not_provisions_of_looksAround
  have hview : (view c v provisioned).run.Asks fun r : Request => r.provisions = false :=
    Task.asks_bind hobserve fun _ => Task.asks_bind (Task.asks_lift ⟨rfl, fun _ => trivial⟩)
      fun _ => trivial
  exact provisionsIn_eq_nil (hview.transcript h s)

theorem of_view {provisioned : Except Failure Unit} {x : Survey}
    (hx : Task.outcome h (view c v provisioned) s = .ok x) :
    x.cluster = c ∧ x.validation = v ∧ x.provisioned = provisioned := by
  rw [view] at hx
  cases hobserved : Task.outcome h (Projection.observe c) s with
  | error e =>
    rw [Task.outcome_bind_error _ hobserved] at hx
    cases hx
  | ok observed =>
    rw [Task.outcome_bind_ok _ hobserved, Task.outcome_bind_ok _ (Task.outcome_lift _ _ _)] at hx
    obtain rfl := Except.ok.inj hx
    exact ⟨rfl, rfl, rfl⟩

/-- How provisioning is done in a survey: once if the cluster is valid, and not at all otherwise. -/
def provisioned (h : Handler surroundings σ) (registry : HandlerRegistry) (key : ObjectKey)
    (c : Cluster) (v : Validation) (s : σ) : Except Failure Unit :=
  if v.isValid then (h (.provision c (registry.lookup key)) s).1 else .ok ()

theorem outcome_process (registry : HandlerRegistry) (key : ObjectKey) (c : Cluster)
    (v : Validation) (s : σ) :
    Task.outcome h (process registry key c v) s = .ok (provisioned h registry key c v s) := by
  cases hvalid : v.isValid with
  | false => simp [process, provisioned, hvalid]
  | true =>
    simp only [process, provisioned, hvalid, if_true, Task.outcome_attempt]
    rfl

theorem provisionsIn_process (registry : HandlerRegistry) (key : ObjectKey) (c : Cluster)
    (v : Validation) (s : σ) : provisionsIn (Task.transcript h (process registry key c v) s) =
      if v.isValid then [⟨c, registry.lookup key, provisioned h registry key c v s⟩] else [] := by
  cases hvalid : v.isValid with
  | false =>
    simp only [process, hvalid, Bool.false_eq_true, if_false]
    rfl
  | true =>
    simp only [process, provisioned, hvalid, if_true, Task.transcript_attempt]
    rfl

/-- A survey fails where validation does, before it provisions anything. -/
theorem survey_of_error {e : Failure}
    (hv : Task.outcome h (Validity.validate config c) s = .error e) :
    Task.outcome h (survey config registry key c) s = .error e ∧
      provisionsIn (Task.transcript h (survey config registry key c) s) = [] := by
  rw [survey, Task.outcome_bind_error _ hv, Task.transcript_bind_error _ hv]
  exact ⟨rfl, provisionsIn_validate config c s⟩

/-- A survey of a cluster whose validation comes to an outcome. -/
theorem survey_of_validated (registry : HandlerRegistry) (key : ObjectKey)
    (hv : Task.outcome h (Validity.validate config c) s = .ok v) :
    ∃ result, (v.isValid = false → result = .ok ()) ∧
      provisionsIn (Task.transcript h (survey config registry key c) s) =
        (if v.isValid then [⟨c, registry.lookup key, result⟩] else []) ∧
      ∀ x, Task.outcome h (survey config registry key c) s = .ok x →
        x.cluster = c ∧ x.validation = v ∧ x.provisioned = result := by
  refine ⟨provisioned h registry key c v (Task.after h (Validity.validate config c) s), ?_, ?_, ?_⟩
  · intro hvalid
    simp [provisioned, hvalid]
  · rw [survey, Task.transcript_bind_ok _ hv, Task.transcript_bind_ok _ (outcome_process ..),
      provisionsIn_append, provisionsIn_append, provisionsIn_validate, provisionsIn_process,
      provisionsIn_view, List.nil_append, List.append_nil]
  · intro x hx
    rw [survey, Task.outcome_bind_ok _ hv, Task.outcome_bind_ok _ (outcome_process ..)] at hx
    exact of_view hx

/-- What a survey that comes to its end says about validation and provisioning. -/
theorem survey_ok {x : Survey} (hx : Task.outcome h (survey config registry key c) s = .ok x) :
    x.cluster = c ∧ Task.outcome h (Validity.validate config c) s = .ok x.validation ∧
      provisionsIn (Task.transcript h (survey config registry key c) s) =
        (if x.validation.isValid then [⟨c, registry.lookup key, x.provisioned⟩] else []) ∧
      (x.validation.isValid = false → x.provisioned = .ok ()) := by
  cases hv : Task.outcome h (Validity.validate config c) s with
  | error e =>
    rw [(survey_of_error hv).1] at hx
    cases hx
  | ok v =>
    obtain ⟨result, hinvalid, hlog, hsurveyed⟩ := survey_of_validated registry key hv
    obtain ⟨rfl, rfl, rfl⟩ := hsurveyed x hx
    exact ⟨rfl, rfl, hlog, hinvalid⟩

/-! ## The commit -/

/-- What an attempt to patch comes to: a conflict is dropped. -/
def unlessConflict : Except Failure Unit → Except Failure Unit
  | .ok _ => .ok ()
  | .error e => if e.isConflict then .ok () else .error e

theorem eq_error_of_unlessConflict {answered : Except Failure Unit} {e : Failure}
    (he : unlessConflict answered = .error e) : answered = .error e := by
  cases answered with
  | ok _ => cases he
  | error e' =>
    cases hconflict : e'.isConflict <;> simp only [unlessConflict, hconflict, Bool.false_eq_true,
      if_true, if_false] at he
    · exact he
    · cases he

/-- What follows an attempt to patch. -/
def dropConflict : Except Failure Unit → Task Unit
  | .ok _ => pure ()
  | .error e => if e.isConflict then pure () else throw e

theorem dropConflict_eq (written : Except Failure Unit) (s : σ) :
    Task.outcome h (dropConflict written) s = unlessConflict written ∧
      Task.transcript h (dropConflict written) s = [] ∧
      Task.after h (dropConflict written) s = s := by
  cases written with
  | ok _ => exact ⟨rfl, rfl, rfl⟩
  | error e =>
    cases hconflict : e.isConflict <;>
      simp only [dropConflict, unlessConflict, hconflict, Bool.false_eq_true, if_true, if_false] <;>
      exact ⟨rfl, rfl, rfl⟩

/-- A commit over the cluster as it is read again. -/
def commitOver (key : ObjectKey) (status : ClusterStatus) : Option Cluster → Task Unit
  | none => pure ()
  | some current =>
    if current.status.any fun st => st.same status then pure ()
    else (Task.patchClusterStatus key current.metadata.resourceVersion status).attempt >>=
      dropConflict

theorem commit_eq (key : ObjectKey) (status : ClusterStatus) :
    commit key status = Task.getCluster key >>= commitOver key status := by
  unfold commit
  congr

/-- The ways a commit can go: the reading fails, the status is not written, or it is patched in. -/
inductive Committed (h : Handler surroundings σ) (key : ObjectKey) (status : ClusterStatus)
    (s : σ) : Prop
  | unread {e : Failure} (hread : (h (.getCluster key) s).1 = .error e)
    (houtcome : Task.outcome h (commit key status) s = .error e)
    (hasked : Task.transcript h (commit key status) s =
      [⟨.getCluster key, (h (.getCluster key) s).1⟩])
    (hafter : Task.after h (commit key status) s = (h (.getCluster key) s).2)
  | unwritten {found : Option Cluster} (hread : (h (.getCluster key) s).1 = .ok found)
    (hsame : ∀ current, found = some current → (current.status.any fun st => st.same status) = true)
    (houtcome : Task.outcome h (commit key status) s = .ok ())
    (hasked : Task.transcript h (commit key status) s =
      [⟨.getCluster key, (h (.getCluster key) s).1⟩])
    (hafter : Task.after h (commit key status) s = (h (.getCluster key) s).2)
  | patched {current : Cluster} {answered : Except Failure Unit} {s' : σ}
    (hread : (h (.getCluster key) s).1 = .ok (some current))
    (hother : (current.status.any fun st => st.same status) = false)
    (hanswered : h (.patchClusterStatus key current.metadata.resourceVersion status)
      (h (.getCluster key) s).2 = (answered, s'))
    (houtcome : Task.outcome h (commit key status) s = unlessConflict answered)
    (hasked : Task.transcript h (commit key status) s =
      [⟨.getCluster key, (h (.getCluster key) s).1⟩,
      ⟨.patchClusterStatus key current.metadata.resourceVersion status, answered⟩])
    (hafter : Task.after h (commit key status) s = s')

theorem committed (h : Handler surroundings σ) (key : ObjectKey) (status : ClusterStatus) (s : σ) :
    Committed h key status s := by
  have hcommit := commit_eq key status
  cases hread : Task.outcome h (Task.getCluster key) s with
  | error e =>
    refine .unread hread ?_ ?_ ?_ <;> rw [hcommit]
    · exact Task.outcome_bind_error _ hread
    · exact Task.transcript_bind_error _ hread
    · exact Task.after_bind_error _ hread
  | ok found =>
    have houtcome := Task.outcome_bind_ok (commitOver key status) hread
    have hasked := Task.transcript_bind_ok (commitOver key status) hread
    have hafter := Task.after_bind_ok (commitOver key status) hread
    rw [← hcommit] at houtcome hasked hafter
    cases found with
    | none =>
      exact .unwritten hread (fun current hcurrent => nomatch hcurrent) houtcome hasked hafter
    | some current =>
      cases hsame : current.status.any fun st => st.same status with
      | true =>
        simp only [commitOver, hsame, if_true] at houtcome hasked hafter
        refine .unwritten hread (fun current' hcurrent => ?_) houtcome hasked hafter
        cases hcurrent
        exact hsame
      | false =>
        simp only [commitOver, hsame, Bool.false_eq_true, if_false] at houtcome hasked hafter
        have hattempt := Task.outcome_attempt h (Task.patchClusterStatus key
          current.metadata.resourceVersion status) (Task.after h (Task.getCluster key) s)
        rw [Task.outcome_bind_ok _ hattempt, (dropConflict_eq _ _).1] at houtcome
        rw [Task.transcript_bind_ok _ hattempt, Task.transcript_attempt,
          (dropConflict_eq _ _).2.1] at hasked
        rw [Task.after_bind_ok _ hattempt, (dropConflict_eq _ _).2.2] at hafter
        exact .patched hread hsame rfl houtcome hasked hafter

/-! ## The end of a pass -/

theorem provisionsIn_commit (key : ObjectKey) (status : ClusterStatus) (s : σ) :
    provisionsIn (Task.transcript h (commit key status) s) = [] := by
  cases committed h key status s with
  | unread hread houtcome hasked hafter => rw [hasked]; rfl
  | unwritten hread hsame houtcome hasked hafter => rw [hasked]; rfl
  | patched hread hother hanswered houtcome hasked hafter => rw [hasked]; rfl

theorem provisionsIn_settle (config : Config) (key : ObjectKey) (x : Survey) (s : σ) :
    provisionsIn (Task.transcript h (settle config key x) s) = [] := by
  rw [settle]
  cases hcommit : Task.outcome h (commit key x.status) s with
  | error e => rw [Task.transcript_bind_error _ hcommit, provisionsIn_commit]
  | ok _ =>
    rw [Task.transcript_bind_ok _ hcommit, provisionsIn_append, provisionsIn_commit,
      Survey.conclude]
    cases x.provisioned <;> rfl

/-- A pass that ends well had its provisioning done, and what follows is told by the status. -/
theorem settle_ok {x : Survey} {a : Action} (ha : Task.outcome h (settle config key x) s = .ok a) :
    x.provisioned = .ok () ∧ a = next config x.cluster x.validation x.status := by
  rw [settle] at ha
  cases hcommit : Task.outcome h (commit key x.status) s with
  | error e =>
    rw [Task.outcome_bind_error _ hcommit] at ha
    cases ha
  | ok _ =>
    rw [Task.outcome_bind_ok _ hcommit, Survey.conclude] at ha
    cases hprovisioned : x.provisioned with
    | error e =>
      rw [hprovisioned] at ha
      cases ha
    | ok _ =>
      rw [hprovisioned] at ha
      exact ⟨rfl, (Except.ok.inj ha).symm⟩

theorem passOver_ok {a : Action} (ha : Task.outcome h (passOver config registry key c) s = .ok a) :
    ∃ x, Task.outcome h (survey config registry key c) s = .ok x ∧ x.provisioned = .ok () ∧
      a = next config x.cluster x.validation x.status := by
  rw [passOver] at ha
  cases hsurvey : Task.outcome h (survey config registry key c) s with
  | error e =>
    rw [Task.outcome_bind_error _ hsurvey] at ha
    cases ha
  | ok x =>
    rw [Task.outcome_bind_ok _ hsurvey] at ha
    exact ⟨x, rfl, settle_ok ha⟩

theorem provisionsIn_passOver (config : Config) (registry : HandlerRegistry) (key : ObjectKey)
    (c : Cluster) (s : σ) : provisionsIn (Task.transcript h (passOver config registry key c) s) =
      provisionsIn (Task.transcript h (survey config registry key c) s) := by
  rw [passOver]
  cases hsurvey : Task.outcome h (survey config registry key c) s with
  | error e => rw [Task.transcript_bind_error _ hsurvey]
  | ok x =>
    rw [Task.transcript_bind_ok _ hsurvey, provisionsIn_append, provisionsIn_settle,
      List.append_nil]

/-! ## What a pass fails by -/

theorem passFailure?_of_read {x : surroundings.Reply} {e : Failure}
    (hx : x.1.readFailure? x.2 = some e) : passFailure? x = some e := by
  obtain ⟨r, a⟩ := x
  cases r with
  | patchClusterStatus key version status => cases hx
  | provision c handler => cases hx
  | _ => exact hx

theorem failsBy_reading {α : Type} {t : Task α} (ht : Reading t.run) :
    Task.FailsBy passFailure? h t := by
  intro s e he
  obtain ⟨x, hx, hfailure⟩ := ht.failure he
  exact ⟨x, hx, passFailure?_of_read hfailure⟩

theorem failsBy_survey (config : Config) (registry : HandlerRegistry) (key : ObjectKey)
    (c : Cluster) :
    Task.FailsBy passFailure? h (survey config registry key c) := by
  have hvalidate : Task.FailsBy passFailure? h (Validity.validate config c) :=
    Task.failsBy_bind (failsBy_reading (Validity.looks_checks config c).reading) fun _ =>
      Task.failsBy_bind (Task.failsBy_lift h _) fun _ => Task.failsBy_pure h _
  refine Task.failsBy_bind hvalidate fun v => Task.failsBy_bind ?_ fun provisioned => ?_
  · intro s e he
    rw [outcome_process] at he
    cases he
  · exact Task.failsBy_bind (failsBy_reading (Projection.inspecting_observe c).reading) fun _ =>
      Task.failsBy_bind (Task.failsBy_lift h _) fun _ => Task.failsBy_pure h _

theorem failsBy_commit (key : ObjectKey) (status : ClusterStatus) :
    Task.FailsBy passFailure? h (commit key status) := by
  intro s e he
  cases committed h key status s with
  | unread hread houtcome hasked hafter =>
    refine ⟨⟨.getCluster key, .error e⟩, ?_, rfl⟩
    rw [hasked, hread, Except.error.inj (houtcome.symm.trans he)]
    exact List.mem_singleton_self _
  | unwritten hread hsame houtcome hasked hafter =>
    rw [houtcome] at he
    cases he
  | @patched current answered s' hread hother hanswered houtcome hasked hafter =>
    obtain rfl := eq_error_of_unlessConflict (houtcome.symm.trans he)
    refine ⟨⟨.patchClusterStatus key current.metadata.resourceVersion status, .error e⟩, ?_, rfl⟩
    rw [hasked]
    exact List.mem_cons_of_mem _ (List.mem_singleton_self _)

theorem mem_of_mem_provisionsIn {log : List surroundings.Reply} {p : Provision}
    (hp : p ∈ provisionsIn log) : ⟨.provision p.cluster p.handler, p.answer⟩ ∈ log := by
  obtain ⟨⟨r, a⟩, hx, hp⟩ := List.mem_filterMap.mp hp
  cases r with
  | provision c handler =>
    cases hp
    exact hx
  | _ => cases hp

/-- A pass over a cluster fails only by a reading, by the patch of the status, or by
provisioning. -/
theorem failsBy_passOver (config : Config) (registry : HandlerRegistry) (key : ObjectKey)
    (c : Cluster) :
    Task.FailsBy passFailure? h (passOver config registry key c) := by
  intro s e he
  rw [passOver] at he ⊢
  cases hsurvey : Task.outcome h (survey config registry key c) s with
  | error e' =>
    rw [Task.outcome_bind_error _ hsurvey] at he
    cases he
    rw [Task.transcript_bind_error _ hsurvey]
    exact failsBy_survey config registry key c s e hsurvey
  | ok x =>
    rw [Task.outcome_bind_ok _ hsurvey, settle] at he
    rw [Task.transcript_bind_ok _ hsurvey, settle]
    cases hcommit : Task.outcome h (commit key x.status)
      (Task.after h (survey config registry key c) s) with
    | error e' =>
      rw [Task.outcome_bind_error _ hcommit] at he
      cases he
      rw [Task.transcript_bind_error _ hcommit]
      obtain ⟨y, hy, hfailure⟩ := failsBy_commit key x.status _ e hcommit
      exact ⟨y, List.mem_append_right _ hy, hfailure⟩
    | ok _ =>
      -- only provisioning is left, and it was done in the survey
      rw [Task.outcome_bind_ok _ hcommit, Survey.conclude] at he
      have hprovisioned : x.provisioned = .error e := by
        cases hprovisioned : x.provisioned with
        | ok _ =>
          rw [hprovisioned] at he
          cases he
        | error e' =>
          rw [hprovisioned] at he
          cases he
          rfl
      obtain ⟨-, -, hlog, hinvalid⟩ := survey_ok hsurvey
      have hvalid : x.validation.isValid = true := by
        by_contra hnot
        rw [hinvalid (by simpa using hnot)] at hprovisioned
        cases hprovisioned
      rw [if_pos hvalid] at hlog
      have hp := mem_of_mem_provisionsIn (hlog ▸ List.mem_singleton_self _)
      refine ⟨_, List.mem_append_left _ hp, ?_⟩
      rw [hprovisioned]
      rfl

/-! ## Waiting for a change -/

theorem next_eq (config : Config) (c : Cluster) (v : Validation) (status : ClusterStatus) :
    next config c v status = .requeueAfter config.resyncMillis ∨
      next config c v status = .awaitChange ∧ c.spec.deploymentPlan.extraMounts.isEmpty = true ∧
        v.retry = false ∧ status.isQuiescent = true := by
  unfold next
  split
  · exact .inl rfl
  · next hnone => exact .inr ⟨rfl, by simpa [and_assoc] using hnone⟩

/-- A status that has settled says that all three conditions of its pass hold. -/
theorem holds_of_isQuiescent {x : Survey} (hv : x.validation.condition.type = Condition.valid)
    (hquiescent : x.status.isQuiescent = true) :
    x.validation.isValid = true ∧ ∀ t ∈ Projection.statedTypes, ∃ e,
      Condition.find? t x.status.conditions = some e ∧ e.isTrue = true :=
  Projection.holds_of_ready hv (Projection.type_deployed ..) hquiescent

/-! ## The pass of a key -/

/-- A pass finds the cluster of its key, and the validation of the cluster comes to an outcome. -/
def Validates (h : Handler surroundings σ) (config : Config) (key : ObjectKey) (s : σ) (c : Cluster)
    (v : Validation) : Prop :=
  (h (.getCluster key) s).1 = .ok (some c) ∧
    Task.outcome h (Validity.validate config c) (h (.getCluster key) s).2 = .ok v

theorem run_of_error {e : Failure} (hfound : (h (.getCluster key) s).1 = .error e) :
    Task.outcome h (run config registry key) s = .error e ∧
      Task.transcript h (run config registry key) s = [⟨.getCluster key, .error e⟩] := by
  have hget : Task.outcome h (Task.getCluster key) s = .error e := hfound
  rw [run_eq, Task.outcome_bind_error _ hget, Task.transcript_bind_error _ hget, ← hfound]
  exact ⟨rfl, rfl⟩

theorem run_of_absent (hfound : (h (.getCluster key) s).1 = .ok none) :
    Task.outcome h (run config registry key) s = .ok .awaitChange ∧
      Task.transcript h (run config registry key) s = [⟨.getCluster key, .ok none⟩] := by
  have hget : Task.outcome h (Task.getCluster key) s = .ok none := hfound
  rw [run_eq, Task.outcome_bind_ok _ hget, Task.transcript_bind_ok _ hget, ← hfound]
  exact ⟨rfl, rfl⟩

theorem run_of_cluster (hfound : (h (.getCluster key) s).1 = .ok (some c)) :
    Task.outcome h (run config registry key) s =
        Task.outcome h (passOver config registry key c) (h (.getCluster key) s).2 ∧
      Task.transcript h (run config registry key) s = ⟨.getCluster key, .ok (some c)⟩ ::
        Task.transcript h (passOver config registry key c) (h (.getCluster key) s).2 := by
  have hget : Task.outcome h (Task.getCluster key) s = .ok (some c) := hfound
  rw [run_eq, Task.outcome_bind_ok _ hget, Task.transcript_bind_ok _ hget, ← hfound]
  exact ⟨rfl, rfl⟩

theorem after_run_of_cluster (hfound : (h (.getCluster key) s).1 = .ok (some c)) :
    Task.after h (run config registry key) s =
      Task.after h (passOver config registry key c) (h (.getCluster key) s).2 := by
  have hget : Task.outcome h (Task.getCluster key) s = .ok (some c) := hfound
  rw [run_eq, Task.after_bind_ok _ hget]
  rfl

/-- The provisionings of a pass are those of its survey, if it comes to one. -/
theorem provisionsIn_run (hfound : (h (.getCluster key) s).1 = .ok (some c)) :
    provisionsIn (Task.transcript h (run config registry key) s) =
      provisionsIn (Task.transcript h (survey config registry key c)
        (h (.getCluster key) s).2) := by
  rw [(run_of_cluster hfound).2, ← provisionsIn_passOver]
  rfl

theorem failsBy_run (config : Config) (registry : HandlerRegistry) (key : ObjectKey) :
    Task.FailsBy passFailure? h (run config registry key) := by
  rw [run_eq]
  refine Task.failsBy_bind (failsBy_reading (.getCluster key)) fun found => ?_
  cases found with
  | none => exact Task.failsBy_pure h _
  | some c => exact failsBy_passOver config registry key c

/-- A valid cluster is provisioned once, with the handler that applies to it, and no other. -/
theorem provisionsIn_of_validates (registry : HandlerRegistry) (hv : Validates h config key s c v) :
    ∃ answer, provisionsIn (Task.transcript h (run config registry key) s) =
      if v.isValid then [⟨c, registry.lookup key, answer⟩] else [] := by
  obtain ⟨result, -, hlog, -⟩ := survey_of_validated registry key hv.2
  exact ⟨result, (provisionsIn_run hv.1).trans hlog⟩

theorem provisionsIn_of_not_valid (registry : HandlerRegistry)
    (hnot : ∀ c v, Validates h config key s c v → v.isValid = false) :
    provisionsIn (Task.transcript h (run config registry key) s) = [] := by
  cases hfound : (h (.getCluster key) s).1 with
  | error e =>
    rw [(run_of_error hfound).2]
    rfl
  | ok found =>
    cases found with
    | none =>
      rw [(run_of_absent hfound).2]
      rfl
    | some c =>
      cases hv : Task.outcome h (Validity.validate config c) (h (.getCluster key) s).2 with
      | error e => exact (provisionsIn_run hfound).trans (survey_of_error hv).2
      | ok v =>
        obtain ⟨answer, hlog⟩ := provisionsIn_of_validates registry ⟨hfound, hv⟩
        simpa [hnot c v ⟨hfound, hv⟩] using hlog

/-- A pass over a cluster that ends well: all that it provisioned went well, and it waits for a
change only if nothing is left to wait for. -/
theorem run_ok (hfound : (h (.getCluster key) s).1 = .ok (some c)) {a : Action}
    (ha : Task.outcome h (run config registry key) s = .ok a) :
    ∃ x, Task.outcome h (survey config registry key c) (h (.getCluster key) s).2 = .ok x ∧
      Validates h config key s c x.validation ∧ (∀ p ∈ provisionsIn
        (Task.transcript h (run config registry key) s), p.answer = .ok ()) ∧
      (a = .requeueAfter config.resyncMillis ∨ a = .awaitChange ∧
        provisionsIn (Task.transcript h (run config registry key) s) =
          [⟨c, registry.lookup key, .ok ()⟩] ∧
        c.spec.deploymentPlan.extraMounts.isEmpty = true ∧ x.validation.retry = false ∧
        ∀ t ∈ Projection.statedTypes, ∃ e,
          Condition.find? t x.status.conditions = some e ∧ e.isTrue = true) := by
  rw [(run_of_cluster hfound).1] at ha
  obtain ⟨x, hx, hprovisioned, rfl⟩ := passOver_ok ha
  obtain ⟨rfl, hv, hlog, -⟩ := survey_ok hx
  rw [provisionsIn_run hfound, hlog, hprovisioned]
  refine ⟨x, hx, ⟨hfound, hv⟩, ?_, ?_⟩
  · intro p hp
    split at hp
    · rw [List.mem_singleton.mp hp]
    · cases hp
  · obtain hrequeue | ⟨hwait, hmounts, hretry, hquiescent⟩ :=
      next_eq config x.cluster x.validation x.status
    · exact .inl hrequeue
    · obtain ⟨hvalid, hholds⟩ := holds_of_isQuiescent (type_validated hv) hquiescent
      exact .inr ⟨hwait, by rw [if_pos hvalid], hmounts, hretry, hholds⟩

/-- A pass whose provisioning failed does not end well. -/
theorem not_ok_of_failed {p : Provision}
    (hp : p ∈ provisionsIn (Task.transcript h (run config registry key) s)) {e : Failure}
    (he : p.answer = .error e) (a : Action) :
    Task.outcome h (run config registry key) s ≠ .ok a := by
  intro ha
  cases hfound : (h (.getCluster key) s).1 with
  | error e' =>
    rw [(run_of_error hfound).1] at ha
    cases ha
  | ok found =>
    cases found with
    | none =>
      rw [(run_of_absent hfound).2] at hp
      cases hp
    | some c =>
      obtain ⟨x, -, -, hdone, -⟩ := run_ok hfound ha
      rw [hdone p hp] at he
      cases he

/-- A cluster that is not valid, or whose check is to be repeated, is looked at again after a pass
that ends well. -/
theorem requeued_of_not_valid (hv : Validates h config key s c v)
    (hnot : v.isValid = false ∨ v.retry = true) {a : Action}
    (ha : Task.outcome h (run config registry key) s = .ok a) :
    a = .requeueAfter config.resyncMillis := by
  obtain ⟨x, hx, hx', -, hrequeue | ⟨-, hlog, -, hretry, -⟩⟩ := run_ok hv.1 ha
  · exact hrequeue
  · obtain rfl : x.validation = v := Except.ok.inj (hx'.2.symm.trans hv.2)
    obtain ⟨answer, hlog'⟩ := provisionsIn_of_validates registry hx'
    obtain hinvalid | hretry' := hnot
    · -- an invalid cluster would not have been provisioned
      rw [hlog', hinvalid] at hlog
      cases hlog
    · rw [hretry] at hretry'
      cases hretry'

/-- What a pass provisions and what follows it. A cluster that is found valid is provisioned exactly
once, with the handler that applies to it, and otherwise nothing is. Where provisioning failed the
pass fails. Where the pass over a cluster ends well, it is repeated after the resync period, or it
waits for a change; it waits only if the provisioning went well, nothing is mounted and the
projected conditions all hold. So a cluster that is not valid, or whose check is to be repeated, is
looked at again, even after a failed pass if only the failures of its requests ask for it. -/
theorem run_provisions (h : Handler surroundings σ) (config : Config) (registry : HandlerRegistry)
    (key : ObjectKey) (s : σ) :
    (∀ c v, Validates h config key s c v → v.isValid = true → ∃ answer,
      provisionsIn (Task.transcript h (run config registry key) s) =
        [⟨c, registry.lookup key, answer⟩]) ∧
    ((∀ c v, Validates h config key s c v → v.isValid = false) →
      provisionsIn (Task.transcript h (run config registry key) s) = []) ∧
    (∀ p ∈ provisionsIn (Task.transcript h (run config registry key) s), ∀ e, p.answer = .error e →
      ∀ a, Task.outcome h (run config registry key) s ≠ .ok a) ∧
    (∀ c a, (h (.getCluster key) s).1 = .ok (some c) →
      Task.outcome h (run config registry key) s = .ok a →
      ∃ x, Task.outcome h (survey config registry key c) (h (.getCluster key) s).2 = .ok x ∧
        (a = .requeueAfter config.resyncMillis ∨ a = .awaitChange ∧
          provisionsIn (Task.transcript h (run config registry key) s) =
            [⟨c, registry.lookup key, .ok ()⟩] ∧
          c.spec.deploymentPlan.extraMounts.isEmpty = true ∧
          ∀ t ∈ Projection.statedTypes, ∃ e,
            Condition.find? t x.status.conditions = some e ∧ e.isTrue = true)) ∧
    ∀ c v, Validates h config key s c v → v.isValid = false ∨ v.retry = true →
      (∀ a, Task.outcome h (run config registry key) s = .ok a →
        a = .requeueAfter config.resyncMillis) ∧
      ((∀ x ∈ Task.transcript h (run config registry key) s, ∀ e, passFailure? x = some e →
          e.requeue = true) →
        followUp config (Task.outcome h (run config registry key) s) =
          .requeueAfter config.resyncMillis) := by
  refine ⟨fun c v hv hvalid => ?_, provisionsIn_of_not_valid registry,
    fun p hp e he a => not_ok_of_failed hp he a,
    fun c a hfound ha => ?_, fun c v hv hnot =>
      ⟨fun a => requeued_of_not_valid hv hnot, fun hstore => ?_⟩⟩
  · obtain ⟨answer, hlog⟩ := provisionsIn_of_validates registry hv
    exact ⟨answer, by rw [hlog, if_pos hvalid]⟩
  · obtain ⟨x, hx, -, -, hnext⟩ := run_ok hfound ha
    exact ⟨x, hx, hnext.imp_right fun ⟨hwait, hlog, hmounts, _, hholds⟩ =>
      ⟨hwait, hlog, hmounts, hholds⟩⟩
  · cases houtcome : Task.outcome h (run config registry key) s with
    | ok a => exact requeued_of_not_valid hv hnot houtcome
    | error e =>
      obtain ⟨x, hx, hfailure⟩ := failsBy_run config registry key s e houtcome
      exact if_pos (hstore x hx e hfailure)

def plainCluster : Cluster where
  metadata := { name := some "c", ns := some "n", generation := some 1 }
  spec := {}

/-- A store that holds that cluster with the status of the state, and its replica, which is ready.
The clock counts up, provisioning goes well, and a patch of the status is accepted. -/
def plainStore : Handler surroundings (Nat × Option ClusterStatus)
  | .getCluster _, s => (.ok (some { plainCluster with status := s.2 }), s)
  | .listPods _ _, s =>
    (.ok [{ metadata := { name := some "c-ss-0" },
            report := some { phase := none, conditions := some [⟨"Ready", "True"⟩] } }], s)
  | .patchClusterStatus _ _ status, s => (.ok (), (s.1, some status))
  | .provision _ _, s => (.ok (), s)
  | .clock, s => (toString s.1, (s.1 + 1, s.2))
  | r, s => (r.refusal, s)

theorem run_provisions_plainStore :
    ∃ v, Validates plainStore {} plainCluster.key (0, none) plainCluster v ∧ v.isValid = true ∧
      (∃ answer,
        provisionsIn (Task.transcript plainStore (run {} .empty plainCluster.key) (0, none)) =
        [⟨plainCluster, none, answer⟩]) ∧
      Task.outcome plainStore (run {} .empty plainCluster.key) (0, none) = .ok .awaitChange := by
  have hv : Validates plainStore {} plainCluster.key (0, none) plainCluster
      (Validity.outcome "0" 1 (.ok ())) := ⟨rfl, rfl⟩
  obtain ⟨hprovisioned, -⟩ := run_provisions plainStore {} .empty plainCluster.key (0, none)
  exact ⟨_, hv, rfl, hprovisioned _ _ hv rfl, by decide +kernel⟩

end ClusterPass

end BrokerFleet
