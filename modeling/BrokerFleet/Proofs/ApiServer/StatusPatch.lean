import BrokerFleet.Proofs.ApiServer.Provisioning
import BrokerFleet.Proofs.Json.Merge

/-! # Replacing a status by a patch

The status of a cluster is sent as a document that is merged into the object. Merging keeps whatever
a document leaves out, so an old status is gone only because a status is written with all its
fields, at every level, and because its lists are replaced whole. -/

namespace BrokerFleet

open Json

/-! ## What a status is made of -/

def VersionStatus.writers : List (String × (VersionStatus → Json)) :=
  [("image", fun v => str v.image), ("initImage", fun v => str v.initImage),
    ("brokerVersion", fun v => str v.brokerVersion)]

theorem VersionStatus.toJson_eq : VersionStatus.toJson = objOf writers := rfl

theorem VersionStatus.overwrites : Overwrites VersionStatus.toJson := by
  rw [toJson_eq]
  refine overwrites_objOf (by decide) ?_
  simp only [writers, List.forall_mem_cons]
  exact ⟨overwrites_str.comp _, overwrites_str.comp _, overwrites_str.comp _, nofun⟩

def PodSummary.writers : List (String × (PodSummary → Json)) :=
  [("ready", fun s => strs s.ready), ("starting", fun s => strs s.starting),
    ("stopped", fun s => strs s.stopped)]

theorem PodSummary.toJson_eq : PodSummary.toJson = objOf writers := rfl

theorem PodSummary.overwrites : Overwrites PodSummary.toJson := by
  rw [toJson_eq]
  refine overwrites_objOf (by decide) ?_
  simp only [writers, List.forall_mem_cons]
  exact ⟨overwrites_arr.comp _, overwrites_arr.comp _, overwrites_arr.comp _, nofun⟩

def ClusterStatus.writers : List (String × (ClusterStatus → Json)) :=
  [("deploymentPlanSize", fun s => int s.deploymentPlanSize.toInt),
    ("scaleLabelSelector", fun s => str s.scaleLabelSelector),
    ("version", fun s => s.version.toJson),
    ("externalConfigs", fun s => arr (s.externalConfigs.map ExternalConfig.toJson)),
    ("podStatus", fun s => s.podStatus.toJson),
    ("conditions", fun s => arr (s.conditions.map Condition.toJson))]

theorem ClusterStatus.toJson_eq : ClusterStatus.toJson = objOf writers := rfl

/-- A status takes the place of an older one. A condition may leave out its time, but it stands in a
list, which is not merged into. -/
theorem ClusterStatus.overwrites : Overwrites ClusterStatus.toJson := by
  rw [toJson_eq]
  refine overwrites_objOf (by decide) ?_
  simp only [writers, List.forall_mem_cons]
  exact ⟨overwrites_int.comp _, overwrites_str.comp _, VersionStatus.overwrites.comp _,
    overwrites_arr.comp _, PodSummary.overwrites.comp _, overwrites_arr.comp _, nofun⟩

namespace ApiServer

variable {document patch : Json} {key : ObjectKey} {version : Option String} {s : ClusterStatus}
  {target : Http.Target}

/-! ## The request -/

/-- The text of the target at which the status of a cluster stands. -/
def statusText (key : ObjectKey) : String :=
  ApiCollection.clusters.objectPath key ++ "/status" ++ "?&fieldManager=broker-operator"

/-- The request that merges a patch into what stands at a target. -/
def mergeRequest (target : Http.Target) (patch : Json) : ApiRequest where
  method := .patch
  target := target
  contentType := some "application/merge-patch+json"
  body := some patch

theorem mergeStatus_eq_ok (hname : key.name ≠ "")
    (htarget : Http.Target.ofText? (statusText key) = some target) :
    ApiRequest.mergeStatus .clusters key patch = .ok (mergeRequest target patch) := by
  have htext : ApiRequest.targetText (ApiCollection.clusters.objectPath key ++ "/status")
      [ApiRequest.managedFields] = statusText key := by
    rw [ApiRequest.targetText, statusText, String.append_assoc]
    rfl
  rw [ApiRequest.mergeStatus, ApiRequest.about, if_neg hname, htext, ApiRequest.draft, htarget]
  rfl

/-- Replacing a status asks for nothing but that the patch be merged. -/
theorem transcript_patchClusterStatus {σ : Type} (h : Handler apiServer σ) (w : σ) {r : ApiRequest}
    (hr : ApiRequest.mergeStatus .clusters key (statusPatch version s) = .ok r) :
    (patchClusterStatus key version s).run.transcript h w = [⟨r, (h r w).1⟩] := by
  have hsent := runs_write h hr Cluster.ofJson? w
  unfold patchClusterStatus
  cases hanswer : (h r w).1.decode Cluster.ofJson? with
  | error e =>
    rw [hanswer] at hsent
    exact hsent.bind_error.asked
  | ok c =>
    rw [hanswer] at hsent
    exact (hsent.bind (.known h rfl _)).asked

/-! ## The patch -/

/-- The fields that the patch gives: the status, and the metadata if a version guards it. -/
def patchFields (version : Option String) (s : ClusterStatus) : List (String × Json) :=
  ("status", s.toJson) ::
    (version.map fun v => ("metadata", obj [("resourceVersion", str v)])).toList

theorem statusPatch_eq : statusPatch version s = obj (patchFields version s) := by
  cases version <;> rfl

theorem nodup_patchFields : ((patchFields version s).map Prod.fst).Nodup := by
  cases version <;> simp [patchFields]

theorem patchFields_ne_null : ∀ e ∈ patchFields version s, e.2 ≠ null := by
  cases version <;> simp [patchFields, ClusterStatus.overwrites.ne_null]

/-- A patch replaces the status of a cluster that has none or an older one. For a cluster that can
be named in a target, exactly one request is made, to merge the patch into the status there; and of
the object merged with the patch the status is the new one, with nothing left of the old. -/
theorem patchClusterStatus_replaces (key : ObjectKey) (version : Option String)
    (s : ClusterStatus) :
    (∀ target, key.name ≠ "" → Http.Target.ofText? (statusText key) = some target →
      ∀ {σ : Type} (h : Handler apiServer σ) (w : σ),
        let r := mergeRequest target (statusPatch version s)
        (patchClusterStatus key version s).run.transcript h w = [⟨r, (h r w).1⟩]) ∧
      ∀ document : Json, Earlier ClusterStatus.toJson (document.get? "status") →
        (document.merge (statusPatch version s)).get? "status" = some s.toJson := by
  refine ⟨fun target hname htarget σ h w => ?_, fun document hearlier => ?_⟩
  · exact transcript_patchClusterStatus h w (mergeStatus_eq_ok hname htarget)
  · have hmerged : field? "status" (mergeFields document.fieldsOf (patchFields version s)) =
        some (merge (orNull (field? "status" document.fieldsOf)) s.toJson) :=
      field?_mergeFields nodup_patchFields patchFields_ne_null List.mem_cons_self
    rw [field?_fieldsOf, ClusterStatus.overwrites.merge_eq hearlier] at hmerged
    rw [statusPatch_eq, merge_obj]
    exact hmerged

def crowdedStatus : ClusterStatus where
  deploymentPlanSize := 1
  version := { image := "broker:2.1.0" }
  podStatus := { ready := ["pod-0"] }
  conditions :=
    [{ type := "Ready", status := .yes, lastTransitionTime := some "2024-01-01T00:00:00Z" }]

/-- The target at which the status of a cluster stands. -/
def crowdedTarget : Http.Target where
  path := "/apis/broker.operator.dev/v1beta1/namespaces/n/brokerclusters/c/status"
  query := ["fieldManager=broker-operator"]

/-- An empty status is sent in one request and takes the place of a crowded one, however the fields
of that were ordered. -/
theorem patchClusterStatus_replaces_crowded :
    let r := mergeRequest crowdedTarget (statusPatch (some "7") {})
    let silent : Handler apiServer Unit := fun _ w => (⟨500, ""⟩, w)
    Http.Target.ofText? (statusText ⟨"n", "c"⟩) = some crowdedTarget ∧
      (patchClusterStatus ⟨"n", "c"⟩ (some "7") {}).run.transcript silent () = [⟨r, ⟨500, ""⟩⟩] ∧
      crowdedStatus.toJson.inOrder.inOrder = crowdedStatus.toJson.inOrder ∧
      ((obj [("status", crowdedStatus.toJson.inOrder)]).merge (statusPatch (some "7") {})).get?
          "status" = some ({} : ClusterStatus).toJson := by
  intro r silent
  have htarget : Http.Target.ofText? (statusText ⟨"n", "c"⟩) = some crowdedTarget := by
    decide +kernel
  have hsame : crowdedStatus.toJson.inOrder.inOrder = crowdedStatus.toJson.inOrder := by rfl
  obtain ⟨hasked, hreplaced⟩ := patchClusterStatus_replaces ⟨"n", "c"⟩ (some "7") {}
  exact ⟨htarget, hasked crowdedTarget (by decide) htarget silent (), hsame,
    hreplaced _ (.written crowdedStatus hsame)⟩

/-- The rest of the object is left as it is. -/
theorem get?_merge_statusPatch_of_ne (document : Json) {field : String} (hstatus : field ≠ "status")
    (hmetadata : field ≠ "metadata") :
    (document.merge (statusPatch version s)).get? field = document.get? field := by
  have hother : field ∉ (patchFields version s).map Prod.fst := by
    cases version <;> simp [patchFields, hstatus, hmetadata]
  rw [statusPatch_eq, merge_obj, ← field?_fieldsOf document]
  exact field?_mergeFields_of_notMem nodup_patchFields patchFields_ne_null hother

end ApiServer

end BrokerFleet
