import BrokerFleet.Cluster.Status
import BrokerFleet.Proofs.Json.Records

/-! # Declarations and statuses that are read back

What is declared of a cluster, an address and a queue, and the status of a cluster, is taken back
field for field from its written form, and from the text of a document that holds it. -/

namespace BrokerFleet

open Json

variable {depth : Nat}

/-! ## Clusters -/

namespace ExtraMounts

theorem reads : Reads ofJson? toJson where
  null := rfl
  read m := by
    rw [ofJson?, toJson, record_obj (by simp)]
    simp [defaulted, last?, all, strs, reads_str.listOf.read]

theorem carried (m : ExtraMounts) : Carried (depth + 2) m.toJson := by
  simp [toJson, carried_obj, carried_strs]

end ExtraMounts

namespace PodSelector

theorem reads : Reads ofJson? toJson where
  null := rfl
  read s := by
    rw [ofJson?, toJson, record_obj (by simp)]
    simp [defaulted, last?, all, reads_texts.read]

theorem carried (s : PodSelector) : Carried (depth + 2) s.toJson := by
  simp [toJson, carried_obj, carried_ofTexts]

end PodSelector

namespace DisruptionBudget

theorem reads : Reads ofJson? toJson where
  null := rfl
  read b := by
    rw [ofJson?, toJson, record_obj (by simp)]
    simp [Json.optional, last?, all, optStr, reads_str.nullable_orNull,
      PodSelector.reads.nullable_orNull]

theorem carried (b : DisruptionBudget) : Carried (depth + 3) b.toJson := by
  simp [toJson, carried_obj, carried_optStr, carried_orNull PodSelector.carried]

end DisruptionBudget

namespace DeploymentPlan

theorem reads : Reads ofJson? toJson where
  null := rfl
  read p := by
    rw [ofJson?, toJson, record_obj (by simp)]
    simp [defaulted, Json.optional, last?, all, optStr, reads_int32.read, reads_str.nullable_orNull,
      ExtraMounts.reads.read, DisruptionBudget.reads.nullable_orNull]

theorem carried (p : DeploymentPlan) : Carried (depth + 4) p.toJson := by
  simp [toJson, carried_obj, carried_int32, carried_optStr, ExtraMounts.carried,
    carried_orNull DisruptionBudget.carried]

end DeploymentPlan

namespace Console

theorem reads : Reads ofJson? toJson where
  null := rfl
  read c := by
    rw [ofJson?, toJson, record_obj (by simp)]
    simp [defaulted, Json.optional, last?, all, optStr, reads_bool.read, reads_str.nullable_orNull]

theorem carried (c : Console) : Carried (depth + 1) c.toJson := by
  simp [toJson, carried_obj, carried_optStr, Carried.bool]

end Console

namespace ClusterSpec

theorem reads : Reads ofJson? toJson where
  null := rfl
  read s := by
    rw [ofJson?, toJson, record_obj (by simp)]
    simp [defaulted, Json.optional, last?, all, optStr, reads_str.nullable_orNull,
      DeploymentPlan.reads.read, Console.reads.read]

theorem carried (s : ClusterSpec) : Carried (depth + 5) s.toJson := by
  simp [toJson, carried_obj, carried_optStr, DeploymentPlan.carried, Console.carried]

end ClusterSpec

/-! ## Statuses -/

namespace VersionStatus

theorem reads : Reads ofJson? toJson where
  null := rfl
  read v := by
    rw [ofJson?, toJson, record_obj (by simp)]
    simp [defaulted, last?, all, reads_str.read]

theorem carried (v : VersionStatus) : Carried (depth + 1) v.toJson := by
  simp [toJson, carried_obj, Carried.str]

end VersionStatus

namespace ExternalConfig

theorem reads : Reads ofJson? toJson where
  null := rfl
  read c := by
    rw [ofJson?, toJson, record_obj (by simp)]
    simp [required, last?, all, reads_str.read]

theorem carried (c : ExternalConfig) : Carried (depth + 1) c.toJson := by
  simp [toJson, carried_obj, Carried.str]

end ExternalConfig

namespace PodSummary

theorem reads : Reads ofJson? toJson where
  null := rfl
  read s := by
    rw [ofJson?, toJson, record_obj (by simp)]
    simp [defaulted, last?, all, strs, reads_str.listOf.read]

theorem carried (s : PodSummary) : Carried (depth + 2) s.toJson := by
  simp [toJson, carried_obj, carried_strs]

end PodSummary

theorem Holds.reads : Reads ofJson? fun h => str h.render where
  null := rfl
  read h := by cases h <;> rfl

namespace Condition

theorem reads : Reads ofJson? toJson where
  null := rfl
  read c := by
    have htime : Json.optional asStr "lastTransitionTime" c.toJson = some c.lastTransitionTime :=
      reads_str.optional_present (by simp) rfl
    rw [toJson] at htime
    rw [ofJson?, toJson, record_present (by simp)]
    simp [required, defaulted, last?, all, htime, reads_str.read, reads_int64.read,
      Holds.reads.read]

theorem carried (c : Condition) : Carried (depth + 1) c.toJson := by
  simp [toJson, carried_present, carried_int64, Carried.str]

end Condition

namespace ClusterStatus

theorem reads : Reads ofJson? toJson where
  null := rfl
  read s := by
    rw [ofJson?, toJson, record_obj (by simp)]
    simp [defaulted, last?, all, reads_int32.read, reads_str.read, VersionStatus.reads.read,
      ExternalConfig.reads.listOf.read, PodSummary.reads.read, Condition.reads.listOf.read]

theorem carried (s : ClusterStatus) : Carried (depth + 3) s.toJson := by
  simp [toJson, carried_obj, carried_int32, Carried.str, VersionStatus.carried,
    carried_map ExternalConfig.carried, PodSummary.carried, carried_map Condition.carried]

end ClusterStatus

/-! ## Addresses and queues -/

namespace QueueSettings

theorem reads : Reads ofJson? toJson where
  null := rfl
  read q := by
    have hnodup : (q.fields.map Prod.fst).Nodup := by
      simp only [fields, List.map_cons, List.map_nil]
      decide
    have hflag (key : String) (b : Option Bool) (hb : q.fields.lookup key = some (b.map bool)) :
        Json.optional asBool key q.toJson = some b := reads_bool.optional_present hnodup hb
    have htext (key : String) (t : Option String) (ht : q.fields.lookup key = some (t.map str)) :
        Json.optional asStr key q.toJson = some t := reads_str.optional_present hnodup ht
    have hword (key : String) (n : Option Int32)
        (hn : q.fields.lookup key = some (n.map fun n => int n.toInt)) :
        Json.optional asInt32 key q.toJson = some n := reads_int32.optional_present hnodup hn
    have hlong (key : String) (n : Option Int64)
        (hn : q.fields.lookup key = some (n.map fun n => int n.toInt)) :
        Json.optional asInt64 key q.toJson = some n := reads_int64.optional_present hnodup hn
    rw [ofJson?, toJson, record_present hnodup, ← toJson, Option.bind_eq_bind, Option.bind_some,
      hflag "ignoreIfExists" q.ignoreIfExists rfl, htext "routingType" q.routingType rfl,
      htext "filterString" q.filterString rfl, hflag "durable" q.durable rfl,
      htext "user" q.user rfl, hword "maxConsumers" q.maxConsumers rfl,
      hflag "exclusive" q.exclusive rfl, hflag "groupRebalance" q.groupRebalance rfl,
      hword "groupBuckets" q.groupBuckets rfl, hflag "lastValue" q.lastValue rfl,
      htext "lastValueKey" q.lastValueKey rfl, hflag "nonDestructive" q.nonDestructive rfl,
      hflag "purgeOnNoConsumers" q.purgeOnNoConsumers rfl, hflag "enabled" q.enabled rfl,
      hword "consumersBeforeDispatch" q.consumersBeforeDispatch rfl,
      hlong "delayBeforeDispatch" q.delayBeforeDispatch rfl,
      hword "consumerPriority" q.consumerPriority rfl, hflag "autoDelete" q.autoDelete rfl,
      hlong "autoDeleteDelay" q.autoDeleteDelay rfl,
      hlong "autoDeleteMessageCount" q.autoDeleteMessageCount rfl, hlong "ringSize" q.ringSize rfl,
      hflag "configurationManaged" q.configurationManaged rfl, hflag "temporary" q.temporary rfl,
      hflag "autoCreateAddress" q.autoCreateAddress rfl]
    rfl

theorem carried (q : QueueSettings) : Carried (depth + 1) q.toJson := by
  have flag (b : Option Bool) : ∀ v ∈ b.map bool, Carried depth v := carried_setting .bool b
  have text (t : Option String) : ∀ v ∈ t.map str, Carried depth v := carried_setting .str t
  have word (n : Option Int32) : ∀ v ∈ n.map fun n => int n.toInt, Carried depth v :=
    carried_setting carried_int32 n
  have long (n : Option Int64) : ∀ v ∈ n.map fun n => int n.toInt, Carried depth v :=
    carried_setting carried_int64 n
  simp only [toJson, fields, carried_present, List.forall_mem_cons, List.not_mem_nil, false_implies,
    implies_true, and_true]
  exact ⟨flag _, text _, text _, flag _, text _, word _, flag _, flag _, word _, flag _, text _,
    flag _, flag _, flag _, word _, long _, word _, flag _, long _, long _, long _, flag _,
    flag _, flag _⟩

end QueueSettings

namespace AddressSpec

theorem reads : Reads ofJson? toJson where
  null := rfl
  read s := by
    rw [ofJson?, toJson, record_obj (by simp)]
    simp [required, defaulted, Json.optional, last?, all, optStr, strs, reads_str.read,
      reads_bool.read, reads_str.nullable_orNull, reads_str.listOf.read,
      QueueSettings.reads.nullable_orNull]

theorem carried (s : AddressSpec) : Carried (depth + 2) s.toJson := by
  simp [toJson, carried_obj, Carried.str, Carried.bool, carried_optStr, carried_strs,
    carried_orNull QueueSettings.carried]

end AddressSpec

/-! ## Round trips -/

/-- Every declared cluster, status of a cluster, declared address and queue settings comes back from
its written form as it was, and so it does from the text of a document that holds it. -/
theorem declarations_read_back :
    (∀ s : ClusterSpec, ClusterSpec.ofJson? s.toJson = some s ∧
      (parseSound? s.toJson.render).bind ClusterSpec.ofJson? = some s) ∧
    (∀ s : ClusterStatus, ClusterStatus.ofJson? s.toJson = some s ∧
      (parseSound? s.toJson.render).bind ClusterStatus.ofJson? = some s) ∧
    (∀ s : AddressSpec, AddressSpec.ofJson? s.toJson = some s ∧
      (parseSound? s.toJson.render).bind AddressSpec.ofJson? = some s) ∧
    ∀ q : QueueSettings, QueueSettings.ofJson? q.toJson = some q ∧
      (parseSound? q.toJson.render).bind QueueSettings.ofJson? = some q :=
  ⟨ClusterSpec.reads.document ClusterSpec.carried,
    ClusterStatus.reads.document ClusterStatus.carried,
    AddressSpec.reads.document AddressSpec.carried,
    QueueSettings.reads.document QueueSettings.carried⟩

end BrokerFleet
