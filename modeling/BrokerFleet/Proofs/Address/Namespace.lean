import BrokerFleet.Proofs.Address.Sightings
import BrokerFleet.Proofs.Replica.Namespace
import BrokerFleet.Proofs.Store.World

/-! # Namespaces kept apart

A declaration is brought to its replicas, and removed from them, by requests within its namespace
alone. So what other namespaces hold makes no difference to it, and it makes none to what they
hold. -/

namespace BrokerFleet

variable {ns : String}

namespace AddressSync

/-! ## Synchronizing -/

theorem Local.confined {step : Step} (hstep : Local step) {t : ReplicaTarget}
    (ht : t.cluster.ns = ns) :
    (step t).Confined (within ns) fun _ => True :=
  .of_asks (hstep t) (by
    rintro _ ⟨c, rfl⟩
    exact ht)

theorem confined_runStep {step : Step} (hstep : Local step) {targets : List ReplicaTarget}
    (htargets : ∀ t ∈ targets, t.cluster.ns = ns) :
    (runStep step targets).Confined
    (within ns) fun outcomes => ∀ o ∈ outcomes, o.1.cluster.ns = ns := by
  have hitem : ∀ t ∈ targets, Program.Confined (within ns)
      (fun o : ReplicaTarget × Option CallFailure => o.1.cluster.ns = ns) (do pure (t, ← step t)) :=
    fun t ht => (hstep.confined (htargets t ht)).bind fun _ _ => htargets t ht
  refine (Program.Confined.each hitem).mono fun outcomes houtcomes o ho => ?_
  obtain ⟨t, -, hns⟩ := houtcomes o ho
  exact hns

theorem succeeded_in {outcomes : Outcomes} (houtcomes : ∀ o ∈ outcomes, o.1.cluster.ns = ns) :
    ∀ t ∈ succeeded outcomes, t.cluster.ns = ns :=
  fun _ ht => houtcomes _ (mem_succeeded.mp ht)

theorem confined_replicas (domain ns : String) (spec : AddressSpec) :
    (replicas domain ns spec).Confined (within ns) (ResolvedTargets.AllIn ns) :=
  ResolvedTargets.confined_resolve domain ns _

theorem confined_conclude (f : BatchFailure) : (conclude f).Confined (within ns) fun _ => True := by
  unfold conclude
  split
  · exact .pure trivial
  · exact .throw _

theorem confined_ensureOn (spec : AddressSpec) {found : ResolvedTargets} (hfound : found.AllIn ns) :
    (ensureOn spec found).Confined (within ns) fun _ => True := by
  refine (confined_runStep (local_ensureAddress spec) hfound).bind fun addressed haddressed => ?_
  cases QueuePayload.ofSpec? spec with
  | none => trivial
  | some p =>
    exact (confined_runStep (local_ensureQueue p) (succeeded_in haddressed)).bind fun _ _ => trivial

theorem confined_ensure (domain ns : String) (spec : AddressSpec) :
    (ensure domain ns spec).Confined (within ns) fun _ => True := by
  refine (confined_replicas domain ns spec).bind fun found hfound => ?_
  split
  · exact .throw _
  · exact (Task.Confined.lift (confined_ensureOn spec hfound)).bind fun f _ => confined_conclude f

/-! ## Removing -/

theorem confined_deleteUnbound (address : String) {t : ReplicaTarget} (ht : t.cluster.ns = ns) :
    (deleteUnbound address t).Confined (within ns) fun _ => True := by
  refine ⟨ht, fun answer _ => ?_⟩
  cases answer with
  | error e => trivial
  | ok bindings =>
    change Program.Confined _ _ (if _ then _ else _)
    split
    · trivial
    · exact ⟨ht, fun _ _ => trivial⟩

theorem confined_removeQueue (spec : AddressSpec) (queue : String) {found : ResolvedTargets}
    (hfound : found.AllIn ns) :
    (removeQueue spec queue found).Confined (within ns) fun _ => True := by
  refine (Task.Confined.lift (confined_runStep (local_deleteQueue queue) hfound)).bind
    fun outcomes houtcomes => ?_
  have hunbound := Program.Confined.each fun t ht =>
    confined_deleteUnbound spec.addressName (succeeded_in houtcomes t ht)
  exact (Task.Confined.lift hunbound).bind fun _ _ => confined_conclude _

theorem confined_deleteAddress (address : String) {targets : List ReplicaTarget}
    (htargets : ∀ t ∈ targets, t.cluster.ns = ns) :
    (deleteAddress address targets).Confined (within ns) fun _ => True := by
  induction targets with
  | nil => exact .pure trivial
  | cons t rest ih =>
    obtain ⟨ht, hrest⟩ := List.forall_mem_cons.mp htargets
    have hcall : (callReplica t (.deleteAddress address)).Confined (within ns) fun _ => True :=
      ⟨ht, fun _ _ => trivial⟩
    rw [deleteAddress]
    refine (Task.Confined.lift hcall).bind fun answer _ => ?_
    cases failureOf .addressDoesNotExist answer with
    | none => exact ih hrest
    | some e => exact .throw _

theorem confined_remove (domain ns : String) (spec : AddressSpec) :
    (remove domain ns spec).Confined (within ns) fun _ => True := by
  refine (confined_replicas domain ns spec).bind fun found hfound => ?_
  split
  · exact .pure trivial
  · split
    · exact confined_removeQueue spec _ hfound
    · unfold removeAddress
      split
      · exact .throw _
      · exact confined_deleteAddress _ hfound

end AddressSync

/-! ## Records -/

namespace Record

theorem confined_lookup (owner : ObjectKey) (kind : String) (labels : Dict String String) :
    (lookup owner kind labels).Confined (within owner.ns) fun _ => True :=
  (confined_listConfigMaps _ _).bind fun _ _ => .pure trivial

theorem confined_isUnchanged (owner : ObjectKey) (kind : String) (labels : Dict String String)
    (checksum : String) :
    (isUnchanged owner kind labels checksum).Confined (within owner.ns) fun _ => True :=
  (confined_lookup owner kind labels).bind fun _ _ => .pure trivial

theorem confined_store (r : Record) : r.store.Confined (within r.owner.ns) fun _ => True :=
  (confined_deleteConfigMap rfl).bind fun _ _ => confined_createConfigMap _ _

theorem confined_remove (owner : ObjectKey) (kind : String) :
    (remove owner kind).Confined (within owner.ns) fun _ => True :=
  confined_deleteConfigMap rfl

end Record

/-! ## The operations of the address controller -/

namespace AddressLifecycle

variable {σ : Type}

theorem confined_matchesRecord (m : AddressMemory) (a : Address) :
    Keeping.Confined (within a.metadata.key.ns) (matchesRecord m a) := by
  unfold matchesRecord
  split
  · exact .pure _
  · exact (Keeping.Confined.ofTask (Record.confined_isUnchanged _ _ _ _).attempt).bind
      fun _ => .pure _

theorem confined_synchronize (config : Config) (a : Address) :
    Keeping.Confined (within a.metadata.key.ns) (synchronize config a) :=
  .ofTask (AddressSync.confined_ensure _ _ _)

theorem confined_keepRecord (a : Address) :
    Keeping.Confined (within a.metadata.key.ns) (keepRecord a) :=
  (Keeping.Confined.ofTask (Record.confined_store (recordOf a)).attempt).bind fun _ => .pure _

theorem confined_apply (config : Config) (a : Address) :
    Keeping.Confined (within a.metadata.key.ns) (apply config a) := by
  unfold apply
  by_cases hvalid : a.spec.violations = []
  · simp only [hvalid, ne_eq, not_true_eq_false, if_false]
    refine Keeping.Confined.get.bind fun m => ?_
    split
    · exact .pure _
    · refine (confined_matchesRecord m a).bind fun matched => ?_
      split
      · exact (Keeping.Confined.modify _).bind fun _ => .pure _
      · exact (Keeping.Confined.modify _).bind fun _ =>
          (confined_synchronize config a).bind fun _ =>
          (Keeping.Confined.modify _).bind fun _ => (confined_keepRecord a).bind fun _ => .pure _
  · simp only [ne_eq, hvalid, not_false_eq_true, if_true]
    exact .throw_bind _ _

theorem confined_cleanup (config : Config) (a : Address) :
    Keeping.Confined (within a.metadata.key.ns) (cleanup config a) := by
  have hforget : Keeping.Confined (within a.metadata.key.ns)
      (ofTask (Record.remove a.metadata.key recordKind).attempt >>= fun _ =>
        modify (forgotten a.metadata.key) >>= fun _ => pure Action.awaitChange) :=
    (Keeping.Confined.ofTask (Record.confined_remove _ _).attempt).bind fun _ =>
      (Keeping.Confined.modify _).bind fun _ => .pure _
  unfold cleanup
  dsimp only
  split
  · exact (Keeping.Confined.ofTask (AddressSync.confined_remove _ _ _)).bind fun _ => hforget
  · exact hforget

/-! ## Observed pods -/

theorem get?_outdated {l : List (ObjectKey × Deployment)} {key : ObjectKey}
    (hl : ∀ e ∈ l, key ≠ e.1) (m : AddressMemory) :
    (l.foldl outdated m).deployments.get? key = m.deployments.get? key := by
  induction l generalizing m with
  | nil => rfl
  | cons e rest ih =>
    obtain ⟨he, hrest⟩ := List.forall_mem_cons.mp hl
    rw [List.foldl_cons, ih hrest]
    exact Dict.get?_insert_of_ne _ _ he

/-- The deployments on the cluster of a pod's owner are in the namespace of the pod. -/
theorem ns_of_mem_onCluster {m : AddressMemory} {pod : Pod} {o : PodOwner}
    {e : ObjectKey × Deployment} (he : e ∈ onCluster m pod o) : e.1.ns = pod.metadata.key.ns := by
  obtain ⟨-, htargets⟩ := List.mem_filter.mp he
  exact eq_of_beq (Bool.and_eq_true_iff.mp htargets).1

/-- An observed pod leaves the deployments of other namespaces alone. -/
theorem get?_of_noticed {h : Handler surroundings σ} {pod : Pod} {m m' : AddressMemory} {s : σ}
    {log : List surroundings.Reply} (hnoticed : Noticed h pod m s log m') {key : ObjectKey}
    (hkey : key.ns ≠ pod.metadata.key.ns) : m'.deployments.get? key = m.deployments.get? key := by
  cases hnoticed with
  | passed _ => rfl
  | unowned _ _ => rfl
  | owned _ _ hstarts _ _ =>
    refine get?_outdated (fun e he hsame => hkey ?_) _
    rw [hsame, ns_of_mem_onCluster (hstarts.subset he)]

/-! ## What namespaces have to do with each other -/

section Isolation

variable {σ₁ σ₂ : Type} {h₁ : Handler surroundings σ₁} {h₂ : Handler surroundings σ₂}
  {R : σ₁ → σ₂ → Prop}

/-- Two surroundings that look alike from within a namespace: they answer alike what is about the
namespace alone, which leads to surroundings that look alike, and a listing of its clusters holds
clusters of the namespace. -/
structure AlikeWithin (ns : String) (h₁ : Handler surroundings σ₁) (h₂ : Handler surroundings σ₂)
    (R : σ₁ → σ₂ → Prop) : Prop where
  answers : ∀ r, r.Within ns → ∀ s₁ s₂, R s₁ s₂ → (h₁ r s₁).1 = (h₂ r s₂).1
  stays : ∀ r, r.Within ns → ∀ s₁ s₂, R s₁ s₂ → R (h₁ r s₁).2 (h₂ r s₂).2
  lists : ∀ s₁ s₂ clusters, R s₁ s₂ → (h₁ (.listClusters (some ns)) s₁).1 = .ok clusters →
    ∀ c ∈ clusters, c.key.ns = ns

theorem AlikeWithin.listsOwn (halike : AlikeWithin ns h₁ h₂ R) {r : Request} (hr : r.Within ns)
    {s₁ : σ₁} {s₂ : σ₂} (hs : R s₁ s₂) : ListsOwn ⟨r, (h₁ r s₁).1⟩ := by
  cases r with
  | listClusters ns' =>
    obtain rfl : ns' = some ns := hr
    cases hanswer : (h₁ (.listClusters (some ns)) s₁).1 with
    | ok clusters => exact halike.lists s₁ s₂ clusters hs hanswer
    | error e => trivial
  | _ => trivial

/-- What is confined to a namespace runs alike in surroundings that look alike from there. -/
theorem run_alike (halike : AlikeWithin ns h₁ h₂ R) {t : Keeping Action}
    (ht : t.Confined (within ns)) (m : AddressMemory) {s₁ : σ₁} {s₂ : σ₂} (hs : R s₁ s₂) :
    (t.run.run m).transcript h₁ s₁ = (t.run.run m).transcript h₂ s₂ ∧
      ((t.run.run m).run h₁ s₁).1 = ((t.run.run m).run h₂ s₂).1 ∧
      ∀ x ∈ (t.run.run m).transcript h₁ s₁, x.1.Within ns := by
  obtain ⟨hvalue, htranscript, hwithin, -⟩ := (ht m).run_congr h₁ h₂ R (fun r hr s₁ s₂ hs =>
    ⟨halike.answers r hr s₁ s₂ hs, halike.listsOwn hr hs, halike.stays r hr s₁ s₂ hs⟩) hs
  exact ⟨htranscript, hvalue, hwithin⟩

end Isolation

/-- Namespaces are kept apart. Applying a declaration, or cleaning up after it, asks the same, is
answered the same, comes to the same and remembers the same in all surroundings that look alike from
within its namespace: so it makes the same calls, by the same domain names and with the same
credentials. All that it asks is about its namespace alone, be it to read an object, to create or
delete a config map, or to call a replica. And a pod that is observed leaves alone what is
remembered of the deployments of other namespaces. -/
theorem namespaces_apart (config : Config) :
    (∀ {σ₁ σ₂ : Type} {h₁ : Handler surroundings σ₁} {h₂ : Handler surroundings σ₂} {R :
      σ₁ → σ₂ → Prop}
        (a : Address), AlikeWithin a.metadata.key.ns h₁ h₂ R →
      ∀ t ∈ [apply config a, cleanup config a], ∀ (m : AddressMemory) (s₁ : σ₁) (s₂ : σ₂), R s₁ s₂ →
        (t.run.run m).transcript h₁ s₁ = (t.run.run m).transcript h₂ s₂ ∧
          ((t.run.run m).run h₁ s₁).1 = ((t.run.run m).run h₂ s₂).1 ∧
          ∀ x ∈ (t.run.run m).transcript h₁ s₁, x.1.Within a.metadata.key.ns) ∧
      ∀ {σ : Type} (h : Handler surroundings σ) (pod : Pod) (m : AddressMemory) (s :
        σ) (key : ObjectKey), key.ns ≠ pod.metadata.key.ns →
          (((onPod pod).run m).run h s).1.2.deployments.get? key = m.deployments.get? key := by
  constructor
  · intro σ₁ σ₂ h₁ h₂ R a halike t ht m s₁ s₂ hs
    have hconfined : t.Confined (within a.metadata.key.ns) := by
      simp only [List.mem_cons, List.not_mem_nil, or_false] at ht
      rcases ht with rfl | rfl
      · exact confined_apply config a
      · exact confined_cleanup config a
    exact run_alike halike hconfined m hs
  · intro σ h pod m s key hkey
    exact get?_of_noticed (onPod_noticed h pod m s) hkey

/-! ## The world in memory -/

open Simulation in
/-- Worlds that hold the same objects in a namespace, and in which the same faults and calls are to
come. -/
structure SameWithin (ns : String) (w₁ w₂ : World) : Prop where
  clusters : ∀ name, w₁.objects.clusters.get? ⟨ns, name⟩ = w₂.objects.clusters.get? ⟨ns, name⟩
  statefulSets : ∀ name, w₁.objects.statefulSets.get? ⟨ns, name⟩ =
    w₂.objects.statefulSets.get? ⟨ns, name⟩
  pods : ∀ name, w₁.objects.pods.get? ⟨ns, name⟩ = w₂.objects.pods.get? ⟨ns, name⟩
  secrets : ∀ name, w₁.objects.secrets.get? ⟨ns, name⟩ = w₂.objects.secrets.get? ⟨ns, name⟩
  configMaps : ∀ name, w₁.objects.configMaps.get? ⟨ns, name⟩ = w₂.objects.configMaps.get? ⟨ns, name⟩
  own : ∀ name c, w₁.objects.clusters.get? ⟨ns, name⟩ = some c → c.key.ns = ns
  faults : w₁.faults = w₂.faults
  brokers : w₁.brokers = w₂.brokers

namespace SameWithin

open Simulation

variable {w₁ w₂ : World}

theorem unlessFault {α : Type} (hsame : SameWithin ns w₁ w₂) {request name : String}
    {answer : World → Except Failure α × World}
    (hanswer : ∀ v₁ v₂, SameWithin ns v₁ v₂ →
      (answer v₁).1 = (answer v₂).1 ∧ SameWithin ns (answer v₁).2 (answer v₂).2) :
    (w₁.unlessFault request name answer).1 = (w₂.unlessFault request name answer).1 ∧
      SameWithin ns (w₁.unlessFault request name answer).2
        (w₂.unlessFault request name answer).2 := by
  unfold World.unlessFault
  rw [← hsame.faults]
  split
  · exact ⟨rfl, { hsame with faults := rfl }⟩
  · exact hanswer _ _ { hsame with faults := rfl }

theorem read {α : Type} (hsame : SameWithin ns w₁ w₂) {request name : String} {answer : Objects → α}
    (hanswer : ∀ v₁ v₂ : World, SameWithin ns v₁ v₂ → answer v₁.objects = answer v₂.objects) :
    (w₁.read request name answer).1 = (w₂.read request name answer).1 ∧
      SameWithin ns (w₁.read request name answer).2 (w₂.read request name answer).2 :=
  hsame.unlessFault fun v₁ v₂ h => ⟨congrArg Except.ok (hanswer v₁ v₂ h), h⟩

theorem note (hsame : SameWithin ns w₁ w₂) (e : Entry) : SameWithin ns (w₁.note e) (w₂.note e) :=
  { hsame with faults := hsame.faults }

theorem createConfigMap (hsame : SameWithin ns w₁ w₂) (map : ConfigMap) :
    (w₁.createConfigMap ns map).1 = (w₂.createConfigMap ns map).1 ∧
      SameWithin ns (w₁.createConfigMap ns map).2 (w₂.createConfigMap ns map).2 := by
  refine (hsame.note _).unlessFault fun v₁ v₂ h => ?_
  have hcontains : v₁.objects.configMaps.contains ⟨ns, map.metadata.anyName⟩ =
      v₂.objects.configMaps.contains ⟨ns, map.metadata.anyName⟩ :=
    congrArg Option.isSome (h.configMaps _)
  rw [← hcontains]
  split
  · exact ⟨rfl, h⟩
  · refine ⟨rfl, { h with configMaps := fun name => ?_ }⟩
    simp only [Dict.get?_insert, h.configMaps]

theorem deleteConfigMap (hsame : SameWithin ns w₁ w₂) (key : ObjectKey) :
    (w₁.deleteConfigMap key).1 = (w₂.deleteConfigMap key).1 ∧
      SameWithin ns (w₁.deleteConfigMap key).2 (w₂.deleteConfigMap key).2 := by
  refine (hsame.note _).unlessFault fun v₁ v₂ h => ⟨rfl, { h with configMaps := fun name => ?_ }⟩
  simp only [Objects.erase, Dict.get?_erase, h.configMaps]

theorem call (hsame : SameWithin ns w₁ w₂) (target : ReplicaTarget) (c : Call) :
    (w₁.call target c).1 = (w₂.call target c).1 ∧ SameWithin ns (w₁.call target c).2
    (w₂.call target c).2 := by
  unfold World.call
  rw [← hsame.brokers]
  exact ⟨rfl, { hsame with brokers := rfl }⟩

theorem answer_alike (hsame : SameWithin ns w₁ w₂) {r : Request} (hr : r.Within ns) :
    (World.answer r w₁).1 = (World.answer r w₂).1 ∧
      SameWithin ns (World.answer r w₁).2 (World.answer r w₂).2 := by
  cases r with
  | listClusters ns' =>
    obtain rfl : ns' = some ns := hr
    exact hsame.read fun v₁ v₂ h => inNamespace_congr h.clusters
  | getStatefulSet key =>
    obtain rfl : key.ns = ns := hr
    exact hsame.read fun v₁ v₂ h => h.statefulSets key.name
  | getPod key =>
    obtain rfl : key.ns = ns := hr
    exact hsame.read fun v₁ v₂ h => h.pods key.name
  | getSecret key =>
    obtain rfl : key.ns = ns := hr
    exact hsame.read fun v₁ v₂ h => h.secrets key.name
  | listConfigMaps ns' selector =>
    obtain rfl : ns' = ns := hr
    exact hsame.read fun v₁ v₂ h => congrArg _ (inNamespace_congr h.configMaps)
  | createConfigMap ns' map =>
    obtain rfl : ns' = ns := hr
    exact hsame.createConfigMap map
  | deleteConfigMap key =>
    exact hsame.deleteConfigMap key
  | call target c => exact hsame.call target c
  | _ => cases hr

end SameWithin

open Simulation in
/-- What a world holds in other namespaces is not seen from within a namespace. -/
theorem alikeWithin_world (ns : String) :
    AlikeWithin ns World.answer World.answer (SameWithin ns) where
  answers _ hr _ _ hsame := (hsame.answer_alike hr).1
  stays _ hr _ _ hsame := (hsame.answer_alike hr).2
  lists w₁ w₂ clusters hsame hlisted c hc := by
    rw [World.eq_of_read hlisted] at hc
    obtain ⟨name, hname⟩ := mem_inNamespace.mp hc
    exact hsame.own name c hname

/-! ## Two tenants -/

section Tenants

open Simulation

/-- A ready pod of a namespace, the only one of its cluster. -/
def podIn (ns : String) : Pod where
  metadata :=
    { name := some "broker-ss-0", ns := some ns, uid := some "u",
      labels := some (clusterLabels "broker") }
  report :=
    some { phase := some "Running", conditions := some [{ type := "Ready", status := "True" }] }

/-- The objects of a namespace with a cluster of one replica, which a user manages. -/
def tenant (ns user : String) : List Stored :=
  [.cluster { metadata := { name := some "broker", ns := some ns }, spec := {} },
    .statefulSet
      { metadata := { name := some "broker-ss", ns := some ns }
        spec := some { replicas := some 1 } },
    .pod (podIn ns),
    .secret {
      metadata := { name := some (ClusterNames.ofName "broker").managementSecret, ns := some ns }
      stringData := some (.ofList [(Credentials.userKey, user)]) }]

def worldOf (objects : List Stored) : World :=
  { now := "", objects := objects.foldl Objects.put {} }

/-- A declaration for all clusters of a namespace. -/
def ordersIn (ns : String) : Address where
  metadata := { name := some "orders", ns := some ns, resourceVersion := some "1" }
  spec := { addressName := "orders" }

/-- An object of another namespace is not found under a key of this one. -/
theorem get?_elsewhere {α : Type} {d e : Dict ObjectKey α} (key : ObjectKey) {v : α}
    (hkey : key.ns ≠ ns) (he : e = d.insert key v) (name : String) :
    d.get? ⟨ns, name⟩ = e.get? ⟨ns, name⟩ := by
  rw [he, Dict.get?_insert_of_ne]
  rintro rfl
  exact hkey rfl

theorem sameWithin_tenants :
    SameWithin "a" (worldOf (tenant "a" "alice"))
      (worldOf (tenant "a" "alice" ++ tenant "b" "bob")) where
  clusters := get?_elsewhere ⟨"b", "broker"⟩ (by decide) rfl
  statefulSets := get?_elsewhere ⟨"b", "broker-ss"⟩ (by decide) rfl
  pods := get?_elsewhere ⟨"b", "broker-ss-0"⟩ (by decide) rfl
  secrets := get?_elsewhere ⟨"b", (ClusterNames.ofName "broker").managementSecret⟩ (by decide) rfl
  configMaps _ := rfl
  own name c hget := by
    obtain ⟨hkey, hc⟩ := List.mem_singleton.mp (Dict.mem_entries_iff.mpr hget)
    rfl
  faults := rfl
  brokers := rfl

/-- The replica of the first tenant, as it is called. -/
def replicaOfAlice : ReplicaTarget :=
  ⟨⟨"a", "broker"⟩, 0, "broker-ss-0.broker-hdls-svc.a.svc.cluster.local", ⟨"alice", "", .http⟩⟩

/-- What is remembered when the declarations of both tenants have been applied. -/
def bothApplied : AddressMemory :=
  tracked (ordersIn "a") (some "1") (tracked (ordersIn "b") (some "1") {})

/-- What a declaration of the first tenant asks does not depend on the second; and a pod of the
second makes its own declaration stale, but not that of the first. -/
theorem namespaces_apart_tenants :
    let alone := worldOf (tenant "a" "alice")
    let shared := worldOf (tenant "a" "alice" ++ tenant "b" "bob")
    let asked := ((apply {} (ordersIn "a")).run.run {}).transcript World.answer
    let noticed := (((onPod (podIn "b")).run bothApplied).run World.answer shared).1.2
    SameWithin "a" alone shared ∧ asked alone = asked shared ∧
      (callsIn (asked alone)).map (·.target) = [replicaOfAlice] ∧
      noticed.checksum ⟨"b", "orders"⟩ = none ∧
      noticed.deployments.get? ⟨"a", "orders"⟩ = bothApplied.deployments.get? ⟨"a", "orders"⟩ := by
  intro alone shared asked noticed
  obtain ⟨hruns, hpods⟩ := namespaces_apart {}
  obtain ⟨hshared, -, -⟩ :=
    hruns (ordersIn "a") (alikeWithin_world "a") _ List.mem_cons_self {} alone shared
    sameWithin_tenants
  have hcalled : (callsIn (asked alone)).map (·.target) = [replicaOfAlice] := by decide +kernel
  have hstale : noticed.checksum ⟨"b", "orders"⟩ = none := by decide +kernel
  have hkept := hpods World.answer (podIn "b") bothApplied shared ⟨"a", "orders"⟩ (by decide)
  exact ⟨sameWithin_tenants, hshared, hcalled, hstale, hkept⟩

end Tenants

end AddressLifecycle

end BrokerFleet
