import BrokerFleet.Proofs.Replica.Resolution

/-! # What a store tells of replicas

Where a store can be read, the replicas that are found in it, and what it takes to talk to them,
follow from the objects that it holds. -/

namespace BrokerFleet

/-- The objects that replicas are found by. -/
structure Inventory where
  /-- The clusters of a namespace. -/
  clusters : String → List Cluster
  statefulSet : ObjectKey → Option StatefulSet
  pod : ObjectKey → Option Pod
  secret : ObjectKey → Option Secret

namespace Inventory

open BrokerFleet.Task (Yields)

variable {σ : Type} {h : Handler surroundings σ} {Q : σ → Prop} {inv : Inventory}

/-- A store that can be read and holds these objects, in all states that reading leads to. -/
structure ServedBy (inv : Inventory) (h : Handler surroundings σ) (Q : σ → Prop) : Prop where
  clusters : ∀ ns, Yields h Q (Task.listClusters (some ns)) (inv.clusters ns)
  statefulSet : ∀ key, Yields h Q (Task.getStatefulSet key) (inv.statefulSet key)
  pod : ∀ key, Yields h Q (Task.getPod key) (inv.pod key)
  secret : ∀ key, Yields h Q (Task.getSecret key) (inv.secret key)

/-- A store that holds these objects, and nothing else. -/
def store (inv : Inventory) : Handler surroundings Unit
  | .listClusters (some ns), s => (.ok (inv.clusters ns), s)
  | .getStatefulSet key, s => (.ok (inv.statefulSet key), s)
  | .getPod key, s => (.ok (inv.pod key), s)
  | .getSecret key, s => (.ok (inv.secret key), s)
  | r, s => (r.refusal, s)

theorem servedBy_store (inv : Inventory) : inv.ServedBy inv.store fun _ => True where
  clusters _ _ _ := ⟨rfl, trivial⟩
  statefulSet _ _ _ := ⟨rfl, trivial⟩
  pod _ _ _ := ⟨rfl, trivial⟩
  secret _ _ _ := ⟨rfl, trivial⟩

/-! ## Credentials -/

/-- The text under a key of a secret, empty if there is none. -/
def text (inv : Inventory) (secret : ObjectKey) (key : String) : String :=
  ((inv.secret secret).bind (·.value? key)).getD ""

def variableValue (inv : Inventory) (ns : String) (v : EnvVar) : String :=
  match v.value.filter (· ≠ ""), v.secretKeyRef with
  | some value, _ => value
  | none, none => ""
  | none, some ref => inv.text ⟨ns, ref.name⟩ ref.key

def addVariable (inv : Inventory) (ns : String) (settled : Bool) (c : Credentials) (v : EnvVar) :
    Credentials :=
  if v.name = Credentials.userVariable ∧ ¬ settled then { c with user := inv.variableValue ns v }
  else if v.name = Credentials.passwordVariable ∧ ¬ settled then
    { c with password := inv.variableValue ns v }
  else if v.name = Credentials.consoleVariable ∧ inv.variableValue ns v ≠ "" then
    { c with protocol := .https }
  else c

def credentials (inv : Inventory) (ns : String) (names : ClusterNames) (pod : Pod) : Credentials :=
  let given := Credentials.ofManagementSecret? (inv.secret ⟨ns, names.managementSecret⟩)
  (Credentials.brokerVariables pod).foldl (inv.addVariable ns given.isSome) (given.getD {})

theorem variableValue_of_literal {ns : String} {v : EnvVar} {value : String}
    (hvalue : v.value = some value) (hne : value ≠ "") : inv.variableValue ns v = value := by
  have hgiven : v.value.filter (· ≠ "") = some value := by
    rw [hvalue, Option.filter_some, if_pos (by simpa using hne)]
  simp only [variableValue, hgiven]

section AddVariable

variable {ns : String} {settled : Bool} {c : Credentials} {v : EnvVar}

theorem addVariable_user (hv : v.name = Credentials.userVariable) : inv.addVariable ns settled c v =
    { c with user := if settled then c.user else inv.variableValue ns v } := by
  have hpassword : Credentials.userVariable ≠ Credentials.passwordVariable := by decide
  have hconsole : Credentials.userVariable ≠ Credentials.consoleVariable := by decide
  cases settled <;> simp [addVariable, hv, hpassword, hconsole]

theorem addVariable_password (hv : v.name = Credentials.passwordVariable) :
    inv.addVariable ns settled c v =
      { c with password := if settled then c.password else inv.variableValue ns v } := by
  have huser : Credentials.passwordVariable ≠ Credentials.userVariable := by decide
  have hconsole : Credentials.passwordVariable ≠ Credentials.consoleVariable := by decide
  cases settled <;> simp [addVariable, hv, huser, hconsole]

theorem addVariable_console (hv : v.name = Credentials.consoleVariable) :
    inv.addVariable ns settled c v =
    { c with protocol := if inv.variableValue ns v = "" then c.protocol else .https } := by
  have huser : Credentials.consoleVariable ≠ Credentials.userVariable := by decide
  have hpassword : Credentials.consoleVariable ≠ Credentials.passwordVariable := by decide
  by_cases hempty : inv.variableValue ns v = "" <;> simp [addVariable, hv, huser, hpassword, hempty]

theorem addVariable_other (huser : v.name ≠ Credentials.userVariable)
    (hpassword : v.name ≠ Credentials.passwordVariable)
    (hconsole : v.name ≠ Credentials.consoleVariable) :
    inv.addVariable ns settled c v = c := by
  simp [addVariable, huser, hpassword, hconsole]

end AddVariable

theorem yields_variableValue (hserved : inv.ServedBy h Q) (ns : String) (v : EnvVar) :
    Yields h Q (Credentials.variableValue ns v) (inv.variableValue ns v) := by
  unfold Credentials.variableValue variableValue
  cases v.value.filter (· ≠ "") with
  | some value => exact .pure _
  | none =>
    cases v.secretKeyRef with
    | none => exact .pure _
    | some ref => exact (hserved.secret _).bind (.pure _)

theorem yields_addVariable (hserved : inv.ServedBy h Q) (ns : String) (settled : Bool)
    (c : Credentials) (v : EnvVar) :
    Yields h Q (Credentials.addVariable ns settled c v) (inv.addVariable ns settled c v) := by
  have hvalue := yields_variableValue hserved ns v
  unfold Credentials.addVariable addVariable
  split
  · exact hvalue.bind (.pure _)
  · split
    · exact hvalue.bind (.pure _)
    · split
      · next hconsole =>
        refine hvalue.bind ?_
        by_cases hempty : inv.variableValue ns v = ""
        · simpa [hempty] using Yields.pure c
        · simpa [hempty, hconsole] using Yields.pure { c with protocol := .https }
      · next hconsole =>
        simpa [hconsole] using Yields.pure c

theorem yields_credentials (hserved : inv.ServedBy h Q) (ns : String) (names : ClusterNames)
    (pod : Pod) :
    Yields h Q (Credentials.resolve ns names pod) (inv.credentials ns names pod) :=
  (hserved.secret _).bind (.foldlM (yields_addVariable hserved ns _) _ _)

/-! ## Replicas -/

/-- The keys of the selected clusters of a namespace. -/
def selected (inv : Inventory) (ns : String) : ClusterSelector → List ObjectKey
  | .all => (inv.clusters ns).map Cluster.key
  | .named names => names.map fun n => ⟨ns, n⟩

def replica (inv : Inventory) (domain : String) (cluster : ObjectKey) (ordinal : Nat) :
    ResolvedTargets :=
  let names := ClusterNames.ofName cluster.name
  let fqdn := names.fqdn ordinal cluster.ns domain
  match inv.pod ⟨cluster.ns, names.pod ordinal⟩ with
  | some pod =>
    { targets := [{ cluster, ordinal, fqdn, credentials := inv.credentials cluster.ns names pod }] }
  | none => { unavailable := [⟨fqdn, "pod " ++ names.pod ordinal ++ " not found"⟩] }

def replicaCount (inv : Inventory) (cluster : ObjectKey) : Nat :=
  (inv.statefulSet ⟨cluster.ns, statefulSetName cluster.name⟩).elim 0 StatefulSet.replicaCount

def replicas (inv : Inventory) (domain : String) (cluster : ObjectKey) : ResolvedTargets :=
  .joinAll ((List.range (inv.replicaCount cluster)).map (inv.replica domain cluster))

def resolve (inv : Inventory) (domain ns : String) (selector : ClusterSelector) : ResolvedTargets :=
  .joinAll ((inv.selected ns selector).map (inv.replicas domain))

theorem yields_selected (hserved : inv.ServedBy h Q) (ns : String) (selector : ClusterSelector) :
    Yields h Q (selector.clusters ns) (inv.selected ns selector) := by
  cases selector with
  | all => exact (hserved.clusters ns).bind (.pure _)
  | named names => exact .pure _

theorem yields_replica (hserved : inv.ServedBy h Q) (domain : String) (cluster : ObjectKey)
    (ordinal : Nat) :
    Yields h Q (ResolvedTargets.replica domain cluster ordinal)
      (inv.replica domain cluster ordinal) := by
  refine (hserved.pod _).bind ?_
  simp only [replica]
  cases inv.pod ⟨cluster.ns, (ClusterNames.ofName cluster.name).pod ordinal⟩ with
  | none => exact .pure _
  | some pod => exact (yields_credentials hserved _ _ pod).bind (.pure _)

theorem yields_replicas (hserved : inv.ServedBy h Q) (domain : String) (cluster : ObjectKey) :
    Yields h Q (ResolvedTargets.ofCluster domain cluster) (inv.replicas domain cluster) := by
  refine (hserved.statefulSet _).bind ?_
  unfold replicas replicaCount
  cases inv.statefulSet ⟨cluster.ns, statefulSetName cluster.name⟩ with
  | none => exact .pure _
  | some set => exact (Yields.mapM (yields_replica hserved domain cluster) _).map _

/-- What is found in a store follows from the objects that it holds. -/
theorem yields_resolve (hserved : inv.ServedBy h Q) (domain ns : String)
    (selector : ClusterSelector) :
    Yields h Q (ResolvedTargets.resolve domain ns selector) (inv.resolve domain ns selector) :=
  (yields_selected hserved ns selector).bind
    ((Yields.mapM (yields_replicas hserved domain) _).map _)

/-! ## What is found -/

theorem mem_targets_replica {domain : String} {cluster : ObjectKey} {ordinal : Nat}
    {t : ReplicaTarget} :
    t ∈ (inv.replica domain cluster ordinal).targets ↔
      ∃ pod, inv.pod ⟨cluster.ns, (ClusterNames.ofName cluster.name).pod ordinal⟩ = some pod ∧
        t = ⟨cluster, ordinal, (ClusterNames.ofName cluster.name).fqdn ordinal cluster.ns domain,
          inv.credentials cluster.ns (.ofName cluster.name) pod⟩ := by
  simp only [replica]
  cases inv.pod ⟨cluster.ns, (ClusterNames.ofName cluster.name).pod ordinal⟩ <;> simp

/-- A target stands for a planned replica of a selected cluster whose pod is there. -/
theorem mem_targets_resolve {domain ns : String} {selector : ClusterSelector} {t : ReplicaTarget} :
    t ∈ (inv.resolve domain ns selector).targets ↔
      t.cluster ∈ inv.selected ns selector ∧ t.ordinal < inv.replicaCount t.cluster ∧
        t ∈ (inv.replica domain t.cluster t.ordinal).targets := by
  simp only [resolve, replicas, ResolvedTargets.mem_targets_joinAll, List.mem_map]
  constructor
  · rintro ⟨_, ⟨cluster, hcluster, rfl⟩, ht⟩
    obtain ⟨r, hr, ht⟩ := ResolvedTargets.mem_targets_joinAll.mp ht
    obtain ⟨ordinal, hordinal, rfl⟩ := List.mem_map.mp hr
    obtain ⟨pod, hpod, rfl⟩ := mem_targets_replica.mp ht
    exact ⟨hcluster, List.mem_range.mp hordinal, ht⟩
  · rintro ⟨hcluster, hordinal, ht⟩
    refine ⟨_, ⟨t.cluster, hcluster, rfl⟩, ResolvedTargets.mem_targets_joinAll.mpr ⟨_, ?_, ht⟩⟩
    exact List.mem_map_of_mem (List.mem_range.mpr hordinal)

end Inventory

end BrokerFleet
