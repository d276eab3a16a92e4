import BrokerFleet.Cluster.Projection
import BrokerFleet.Proofs.Address.Sightings
import BrokerFleet.Proofs.Cluster.Names
import BrokerFleet.Proofs.Replica.Inventory
import BrokerFleet.Proofs.Workload.Volumes

/-! # Pods made from the template of a cluster

Whoever looks for the replicas of a cluster goes by what its stateful set gives to its pods: the
selector of the status by their labels, the observer of pods by their owner or their label, and the
look-up of credentials by the variables of their first container. All three find a pod that is made
from the template. -/

namespace BrokerFleet

open AddressLifecycle

/-- A pod made from the template of a stateful set for an ordinal: it has the name of its place, the
labels and the containers of the template, and no other stateful set controls it. -/
structure StampedFrom (set : StatefulSet) (i : UInt32) (pod : Pod) : Prop where
  name : pod.metadata.name = some (set.metadata.anyName ++ "-" ++ toString i.toNat)
  ns : pod.metadata.ns = set.metadata.ns
  labels : ∀ labels, set.spec.bind (·.podLabels) = some labels →
    ∀ e ∈ labels.entries, pod.metadata.label? e.1 = some e.2
  containers : pod.spec.map (·.containers) = (set.spec.bind (·.pod)).map (·.containers)
  controllers : ∀ o ∈ controllers pod, o.name = set.metadata.anyName

namespace WorkloadPlan

variable {c : Cluster} {p : WorkloadPlan} {handler : Option ConfigHandler} {i : UInt32} {pod : Pod}

/-! ## Names -/

theorem ofCluster_ok (hplan : ofCluster c = .ok p) :
    p.cluster = c ∧ c.key = ⟨p.ns, c.metadata.anyName⟩ := by
  unfold ofCluster at hplan
  split at hplan
  · cases hplan
  · cases hplan
  · next name ns hname hns =>
    cases hplan
    exact ⟨rfl, by simp [Cluster.key, Metadata.key, hns]⟩

/-- But for the secret of the console, the names of a cluster follow from its name. -/
theorem names_eq (p : WorkloadPlan) :
    p.names = { ClusterNames.ofName p.cluster.metadata.anyName with
      consoleSecret := p.names.consoleSecret } :=
  ClusterNames.ofCluster_eq p.cluster

theorem key_of_stamped (hstamped : StampedFrom (p.statefulSet handler) i pod) :
    pod.metadata.key = ⟨p.ns, p.names.pod i.toNat⟩ := by
  simp [Metadata.key, Metadata.anyName, hstamped.name, hstamped.ns, statefulSet, metadata,
    ClusterNames.pod]

/-! ## Labels -/

theorem labels_of_stamped (hstamped : StampedFrom (p.statefulSet handler) i pod) :
    ∀ e ∈ p.names.labels.entries, pod.metadata.label? e.1 = some e.2 :=
  hstamped.labels _ rfl

theorem ownerIn_of_stamped (hstamped : StampedFrom (p.statefulSet handler) i pod) :
    ownerIn pod.metadata.key (.ok (some pod)) =
      some ⟨p.names.statefulSet, i.toNat, pod.metadata.labelSet⟩ := by
  have hset : statefulSetOf? pod = some p.names.statefulSet := by
    refine statefulSetOf?_eq hstamped.controllers fun _ => ?_
    refine ⟨p.names.cluster, labels_of_stamped hstamped (clusterLabel, _) ?_, ?_⟩
    · simp [ClusterNames.labels, entries_clusterLabels]
    · rw [names_eq]
      rfl
  have hordinal : podOrdinal? pod.metadata.key.name p.names.statefulSet = some i.toNat := by
    rw [key_of_stamped hstamped]
    exact podOrdinal?_append i.toNat_lt
  simp [ownerIn, hset, hordinal]

/-! ## Credentials -/

/-- What it takes to talk to a replica of a cluster, by the objects of a store: the management
secret if it holds a user, else the credentials secret. -/
def credentials (p : WorkloadPlan) (inv : Inventory) : Credentials :=
  let management : ObjectKey := ⟨p.ns, p.names.managementSecret⟩
  let own : ObjectKey := ⟨p.ns, p.names.credentialsSecret⟩
  let protocol : Protocol := if p.cluster.spec.console.sslEnabled then .https else .http
  match (inv.secret management).bind (·.value? Credentials.userKey) with
  | some user => ⟨user, inv.text management Credentials.passwordKey, protocol⟩
  | none =>
    ⟨inv.text own Credentials.userVariable, inv.text own Credentials.passwordVariable, protocol⟩

theorem brokerVariables_of_stamped (hstamped : StampedFrom (p.statefulSet handler) i pod) :
    Credentials.brokerVariables pod = p.environment := by
  have hcontainers : pod.spec.map (·.containers) = some [p.brokerContainer] := hstamped.containers
  obtain ⟨spec, hspec, hbroker⟩ := Option.map_eq_some_iff.mp hcontainers
  simp [Credentials.brokerVariables, hspec, hbroker, brokerContainer]

theorem variableValue_credential (inv : Inventory) (key : String) :
    inv.variableValue p.ns (p.credential key) = inv.text ⟨p.ns, p.names.credentialsSecret⟩ key :=
      rfl

/-- What the variables of the broker container add to given credentials. -/
theorem foldl_environment (inv : Inventory) (settled : Bool) (given : Credentials) :
    p.environment.foldl (inv.addVariable p.ns settled) given =
      let own : ObjectKey := ⟨p.ns, p.names.credentialsSecret⟩
      { user := if settled then given.user else inv.text own Credentials.userVariable
        password := if settled then given.password else inv.text own Credentials.passwordVariable
        protocol := if p.encrypted then .https else given.protocol } := by
  have hdata (c : Credentials) : inv.addVariable p.ns settled c
      { name := "BROKER_DATA_DIR", value := some p.names.dataPath } = c :=
    Inventory.addVariable_other (v := ⟨"BROKER_DATA_DIR", _, _⟩) (by decide : "BROKER_DATA_DIR" ≠ _)
      (by decide : "BROKER_DATA_DIR" ≠ _) (by decide : "BROKER_DATA_DIR" ≠ _)
  simp only [environment, List.cons_append, List.nil_append, List.foldl_cons, hdata]
  rw [Inventory.addVariable_password rfl, Inventory.addVariable_user rfl, variableValue_credential,
    variableValue_credential]
  -- the one variable that is left is there only where the console is encrypted
  cases p.encrypted with
  | false => rfl
  | true =>
    have hne (text : String) : text ++ "/client.ts" ≠ "" := by simp
    rw [if_pos rfl, List.foldl_cons, Inventory.addVariable_console rfl,
      Inventory.variableValue_of_literal rfl (hne _), if_neg (hne _)]
    rfl

theorem credentials_of_stamped (hstamped : StampedFrom (p.statefulSet handler) i pod)
    (inv : Inventory) :
    inv.credentials p.ns (.ofName p.cluster.metadata.anyName) pod = p.credentials inv := by
  have hsecret : (ClusterNames.ofName p.cluster.metadata.anyName).managementSecret =
      p.names.managementSecret := by
    rw [names_eq]
  simp only [Inventory.credentials, brokerVariables_of_stamped hstamped, foldl_environment, hsecret,
    credentials, encrypted, Credentials.ofManagementSecret?, Inventory.text]
  cases inv.secret ⟨p.ns, p.names.managementSecret⟩ with
  | none => rfl
  | some secret => cases hvalue : secret.value? Credentials.userKey <;> simp [hvalue]

/-- The target that the replica of an ordinal is resolved to. -/
def target (p : WorkloadPlan) (inv : Inventory) (domain : String) (i : UInt32) : ReplicaTarget where
  cluster := ⟨p.ns, p.names.cluster⟩
  ordinal := i.toNat
  fqdn := p.names.fqdn i.toNat p.ns domain
  credentials := p.credentials inv

theorem mem_targets_of_stamped (hstamped : StampedFrom (p.statefulSet handler) i pod)
    {inv : Inventory} (hpod : inv.pod pod.metadata.key = some pod) {domain : String}
    {t : ReplicaTarget} :
    t ∈ (inv.replica domain ⟨p.ns, p.cluster.metadata.anyName⟩ i.toNat).targets ↔
      t = p.target inv domain i := by
  have hplace : inv.pod ⟨p.ns, (ClusterNames.ofName p.cluster.metadata.anyName).pod i.toNat⟩ =
      some pod := by
    rw [← hpod, key_of_stamped hstamped, names_eq]
    rfl
  have htarget : p.target inv domain i = ⟨⟨p.ns, p.cluster.metadata.anyName⟩, i.toNat,
      (ClusterNames.ofName p.cluster.metadata.anyName).fqdn i.toNat p.ns domain,
      p.credentials inv⟩ := by
    rw [target, names_eq]
    rfl
  rw [Inventory.mem_targets_replica, htarget, ← credentials_of_stamped hstamped]
  constructor
  · rintro ⟨pod', hpod', rfl⟩
    obtain rfl : pod = pod' := Option.some.inj (hplace.symm.trans hpod')
    rfl
  · rintro rfl
    exact ⟨pod, hplace, rfl⟩

/-! ## Whoever looks -/

theorem selects_of_stamped (hcomma : ',' ∉ p.cluster.metadata.anyName.toList)
    (hstamped : StampedFrom (p.statefulSet handler) i pod) :
    Simulation.selects p.names.selector pod.metadata.labelSet = true := by
  have hname : p.names.cluster = p.cluster.metadata.anyName := by
    rw [names_eq]
    rfl
  exact (selects_selector (hname ▸ hcomma)).mpr (labels_of_stamped hstamped)

/-- A pod that is made from the template of a cluster carries what the projected selector asks for.
Where it is stored, it is found to be of the stateful set of the cluster and of its ordinal; what it
takes to talk to it follows from the secrets of the cluster and from its console; and if it is a
planned replica and the cluster is selected, it is resolved to a target with just that. -/
theorem stamped_pod_found (hplan : ofCluster c = .ok p) (hcomma : ',' ∉ c.metadata.anyName.toList)
    (hstamped : StampedFrom (p.statefulSet handler) i pod) :
    (∀ now previous valid error observed, Simulation.selects
      (Projection.project now c previous valid error observed).scaleLabelSelector
        pod.metadata.labelSet = true) ∧
    ∀ {σ : Type} {h : Handler surroundings σ} {inv : Inventory} {Q : σ → Prop} {s : σ},
      inv.ServedBy h Q → Q s → inv.pod pod.metadata.key = some pod →
      ((podOwner pod.metadata.key).run h s).1 =
          some ⟨p.names.statefulSet, i.toNat, pod.metadata.labelSet⟩ ∧
        Task.outcome h (Credentials.resolve p.ns (.ofName c.metadata.anyName) pod) s =
          .ok (p.credentials inv) ∧
        ∀ domain selector, c.key ∈ inv.selected p.ns selector → i.toNat < inv.replicaCount c.key →
          ∃ found, Task.outcome h (ResolvedTargets.resolve domain p.ns selector) s = .ok found ∧
            p.target inv domain i ∈ found.targets ∧
            ∀ t ∈ found.targets, t.cluster = c.key → t.ordinal = i.toNat →
            t = p.target inv domain i := by
  obtain ⟨rfl, hkey⟩ := ofCluster_ok hplan
  refine ⟨fun _ _ _ _ _ => selects_of_stamped hcomma hstamped, ?_⟩
  intro σ h inv Q s hserved hs hpod
  refine ⟨?_, ?_, ?_⟩
  · have hfound : (h (.getPod pod.metadata.key) s).1 = .ok (some pod) := by
      rw [← hpod]
      exact (hserved.pod _ s hs).1
    rw [podOwner_eq]
    show ownerIn _ (h (.getPod pod.metadata.key) s).1 = _
    rw [hfound, ownerIn_of_stamped hstamped]
  · rw [← credentials_of_stamped hstamped]
    exact (Inventory.yields_credentials hserved _ _ _ s hs).1
  · intro domain selector hselected hordinal
    have htargets (t : ReplicaTarget) : t ∈ (inv.replica domain p.cluster.key i.toNat).targets ↔
        t = p.target inv domain i := by
      rw [hkey]
      exact mem_targets_of_stamped hstamped hpod
    have hown : (p.target inv domain i).cluster = p.cluster.key := by
      rw [hkey, target, names_eq]
      rfl
    refine ⟨_, (Inventory.yields_resolve hserved domain p.ns selector s hs).1, ?_, ?_⟩
    · rw [Inventory.mem_targets_resolve, hown]
      exact ⟨hselected, hordinal, (htargets _).mpr rfl⟩
    · rintro t ht hcluster hi
      obtain ⟨-, -, hreplica⟩ := Inventory.mem_targets_resolve.mp ht
      rw [hcluster, hi] at hreplica
      exact (htargets t).mp hreplica

def encryptedCluster : Cluster where
  metadata := { name := some "c", ns := some "n" }
  spec := { console := { sslEnabled := true } }

def encryptedPlan : WorkloadPlan := ⟨encryptedCluster, "n"⟩

/-- Its replica, which only the label of the cluster leads back to it. -/
def encryptedReplica : Pod where
  metadata := { name := some "c-ss-0", ns := some "n", labels := some encryptedPlan.names.labels }
  spec := some { containers := [encryptedPlan.brokerContainer] }

/-- A store that holds them and the user, but no password. -/
def encryptedInventory : Inventory where
  clusters _ := [encryptedCluster]
  statefulSet _ := some (encryptedPlan.statefulSet none)
  pod _ := some encryptedReplica
  secret key := if key.name = "c-credentials-secret" then
      some { stringData := some (.ofList [("BROKER_USER", "u")]) }
    else none

theorem stampedFrom_encryptedPlan :
    StampedFrom (encryptedPlan.statefulSet none) 0 encryptedReplica where
  name := rfl
  ns := rfl
  labels := by
    rintro _ ⟨⟩
    decide
  containers := rfl
  controllers := by decide

theorem stamped_pod_found_encrypted :
    ofCluster encryptedCluster = .ok encryptedPlan ∧
    ',' ∉ encryptedCluster.metadata.anyName.toList ∧
      StampedFrom (encryptedPlan.statefulSet none) 0 encryptedReplica ∧
      Simulation.selects encryptedPlan.names.selector encryptedReplica.metadata.labelSet = true ∧
      encryptedInventory.ServedBy encryptedInventory.store (fun _ => True) ∧
      ∃ found, Task.outcome encryptedInventory.store (ResolvedTargets.resolve "local" "n" .all) () =
          .ok found ∧
        ⟨⟨"n", "c"⟩, 0, "c-ss-0.c-hdls-svc.n.svc.local", ⟨"u", "", .https⟩⟩ ∈ found.targets := by
  have hstamped := stampedFrom_encryptedPlan
  have hserved := encryptedInventory.servedBy_store
  have hcomma : ',' ∉ encryptedCluster.metadata.anyName.toList := by decide
  obtain ⟨hselects, hstore⟩ := stamped_pod_found rfl hcomma hstamped
  obtain ⟨-, -, hresolved⟩ := hstore hserved (s := ()) trivial rfl
  obtain ⟨found, hfound, htarget, -⟩ := hresolved "local" .all (by decide) (by decide)
  exact ⟨rfl, hcomma, hstamped, hselects "" none ⟨"Valid", .yes, "", "", 0, none⟩ none {},
    hserved, found, hfound, htarget⟩

end WorkloadPlan

end BrokerFleet
