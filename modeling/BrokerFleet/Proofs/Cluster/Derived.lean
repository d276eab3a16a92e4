import BrokerFleet.ApiServer.Request
import BrokerFleet.Proofs.Cluster.Names

/-! # Objects derived from a cluster

The objects that a cluster has are known by their kinds and by names that follow from its own. Two
clusters of different names have no object of one kind and name in common, though the name of one
may go on with any of the endings that are put after the name of the other. -/

namespace BrokerFleet

/-! ## Kinds -/

/-- The kinds of the objects that are derived from a cluster. -/
inductive ObjectKind where
  | statefulSet
  | pod
  | service
  | secret
  | disruptionBudget
  deriving DecidableEq, Repr

namespace ObjectKind

/-- The collection that holds the objects of a kind. -/
def collection : ObjectKind → ApiCollection
  | statefulSet => .statefulSets
  | pod => .pods
  | service => .services
  | secret => .secrets
  | disruptionBudget => .disruptionBudgets

/-- The texts that make a name of a kind when they are put after the stem of a cluster. -/
def endings : ObjectKind → List String
  | statefulSet => ["ss"]
  | service => ["hdls-svc", "ping-svc"]
  | secret => ["credentials-secret", "console-secret", "netty-secret", "management-secret"]
  | pod | disruptionBudget => []

/-- No ending of a kind goes on after a hyphen with an ending of that kind. -/
theorem endings_independent (kind : ObjectKind) :
    ∀ tail ∈ kind.endings, ∀ tail' ∈ kind.endings, ¬ '-' :: tail.toList <:+ tail'.toList := by
  cases kind <;> decide

end ObjectKind

/-! ## Names -/

/-- The names of the objects that are derived from a cluster, by their kinds. A secret of the
console that the cluster declares is not derived from it. -/
inductive Cluster.Derives (c : Cluster) : ObjectKind → String → Prop where
  | statefulSet : c.Derives .statefulSet (ClusterNames.ofCluster c).statefulSet
  | pod (ordinal : Nat) : c.Derives .pod ((ClusterNames.ofCluster c).pod ordinal)
  | headlessService : c.Derives .service (ClusterNames.ofCluster c).headlessService
  | pingService : c.Derives .service (ClusterNames.ofCluster c).pingService
  | credentialsSecret : c.Derives .secret (ClusterNames.ofCluster c).credentialsSecret
  | consoleSecret (undeclared : c.spec.console.sslSecret.filter (· ≠ "") = none) :
      c.Derives .secret (ClusterNames.ofCluster c).consoleSecret
  | nettySecret : c.Derives .secret (ClusterNames.ofCluster c).nettySecret
  | managementSecret : c.Derives .secret (ClusterNames.ofCluster c).managementSecret
  | disruptionBudget : c.Derives .disruptionBudget ((ClusterNames.ofCluster c).cluster ++ "-pdb")

namespace Cluster.Derives

variable {c c' : Cluster} {kind : ObjectKind} {name : String}

theorem exists_ordinal (h : c.Derives .pod name) :
    ∃ ordinal, name = (ClusterNames.ofName c.metadata.anyName).pod ordinal := by
  cases h with
  | pod ordinal =>
    rw [ClusterNames.ofCluster_eq]
    exact ⟨ordinal, rfl⟩

theorem budget_eq (h : c.Derives .disruptionBudget name) : name = c.metadata.anyName ++ "-pdb" := by
  cases h
  rw [ClusterNames.ofCluster_eq]
  rfl

/-- A name of another kind is an ending of that kind after the stem of the cluster. -/
theorem exists_ending (h : c.Derives kind name) (hpod : kind ≠ .pod)
    (hbudget : kind ≠ .disruptionBudget) :
    ∃ tail ∈ kind.endings, name = stem c.metadata.anyName ++ tail := by
  cases h with
  | pod => exact absurd rfl hpod
  | disruptionBudget => exact absurd rfl hbudget
  | consoleSecret undeclared =>
    rw [ClusterNames.ofCluster_of_undeclared undeclared]
    exact ⟨"console-secret", by decide, hyphenated_cons _ (by decide)⟩
  | statefulSet =>
    rw [ClusterNames.ofCluster_eq]
    exact ⟨"ss", by decide, hyphenated_cons _ (by decide)⟩
  | headlessService =>
    rw [ClusterNames.ofCluster_eq]
    exact ⟨"hdls-svc", by decide, hyphenated_cons _ (by decide)⟩
  | pingService =>
    rw [ClusterNames.ofCluster_eq]
    exact ⟨"ping-svc", by decide, hyphenated_cons _ (by decide)⟩
  | credentialsSecret =>
    rw [ClusterNames.ofCluster_eq]
    exact ⟨"credentials-secret", by decide, hyphenated_cons _ (by decide)⟩
  | nettySecret =>
    rw [ClusterNames.ofCluster_eq]
    exact ⟨"netty-secret", by decide, hyphenated_cons _ (by decide)⟩
  | managementSecret =>
    rw [ClusterNames.ofCluster_eq]
    exact ⟨"management-secret", by decide, hyphenated_cons _ (by decide)⟩

/-- A derived object tells the name of its cluster. -/
theorem cluster_inj (h : c.Derives kind name) (h' : c'.Derives kind name) :
    c.metadata.anyName = c'.metadata.anyName := by
  -- a pod is told off at its last hyphen, a budget by its one ending, all else by endings that
  -- continue no other
  by_cases hpod : kind = .pod
  · subst hpod
    obtain ⟨ordinal, rfl⟩ := h.exists_ordinal
    obtain ⟨ordinal', heq⟩ := h'.exists_ordinal
    exact (ClusterNames.pod_inj.mp heq).1
  · by_cases hbudget : kind = .disruptionBudget
    · subst hbudget
      exact (String.append_left_inj "-pdb").mp (h.budget_eq.symm.trans h'.budget_eq)
    · obtain ⟨tail, htail, rfl⟩ := h.exists_ending hpod hbudget
      obtain ⟨tail', htail', heq⟩ := h'.exists_ending hpod hbudget
      exact (stem_append_inj (kind.endings_independent tail htail tail' htail')
        (kind.endings_independent tail' htail' tail htail) heq).1

end Cluster.Derives

/-! ## Paths -/

namespace ObjectKind

theorem root_eq_of_starts {kind kind' : ObjectKind}
    (h : kind.collection.root.toList <+: kind'.collection.root.toList) :
    kind.collection.root = kind'.collection.root := by
  revert h
  cases kind <;> cases kind' <;> decide

theorem slash_notMem_plural (kind : ObjectKind) : '/' ∉ kind.collection.plural.toList := by
  cases kind <;> decide

theorem plural_injective {kind kind' : ObjectKind}
    (h : kind.collection.plural = kind'.collection.plural) :
    kind = kind' := by
  revert h
  cases kind <;> cases kind' <;> decide

theorem toList_objectPath (kind : ObjectKind) (key : ObjectKey) :
    (kind.collection.objectPath key).toList = kind.collection.root.toList ++
      (("/namespaces/" ++ key.ns ++ "/").toList ++
        (kind.collection.plural.toList ++ '/' :: key.name.toList)) := by
  simp only [ApiCollection.objectPath, ApiCollection.path, String.toList_append, List.append_assoc]
  rfl

/-- The path of an object of a namespace tells its kind and its name. -/
theorem objectPath_inj {kind kind' : ObjectKind} {ns name name' : String}
    (h : kind.collection.objectPath ⟨ns, name⟩ = kind'.collection.objectPath ⟨ns, name'⟩) :
    kind = kind' ∧ name = name' := by
  have hlist := congrArg String.toList h
  rw [toList_objectPath, toList_objectPath] at hlist
  -- both roots start the path, so one of them starts the other
  have hroot : kind.collection.root = kind'.collection.root := by
    rcases List.prefix_or_prefix_of_prefix (List.prefix_append _ _)
      (hlist ▸ List.prefix_append _ _) with hle | hle
    · exact (root_eq_of_starts hle).symm
    · exact root_eq_of_starts hle
  rw [hroot, List.append_cancel_left_eq, List.append_cancel_left_eq] at hlist
  have hsplit := congrArg (Text.splitFirst? '/') hlist
  rw [Text.splitFirst?_append kind.slash_notMem_plural,
    Text.splitFirst?_append kind'.slash_notMem_plural, Option.some_inj, Prod.mk.injEq] at hsplit
  exact ⟨plural_injective (String.toList_inj.mp hsplit.1), String.toList_inj.mp hsplit.2⟩

end ObjectKind

end BrokerFleet
