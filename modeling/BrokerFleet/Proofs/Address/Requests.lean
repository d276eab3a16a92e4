import BrokerFleet.Proofs.Address.FanOut

/-! # What synchronizing asks

Bringing an address to its replicas, or removing it from them, reads the store and calls replicas:
it writes nothing and asks for no pass. Bringing it begins with a look at the clusters. -/

namespace BrokerFleet

def Request.isCall : Request → Bool
  | .call _ _ => true
  | _ => false

def Request.isReadOrCall (r : Request) : Bool := r.isRead || r.isCall

/-- Whether a request reads or changes what is stored. -/
def Request.accessesStore : Request → Bool
  | .call _ _ | .clock | .send _ => false
  | _ => true

/-- Whether a request looks for clusters, or for what runs of one. -/
def Request.looksForCluster : Request → Bool
  | .listClusters _ | .getStatefulSet _ => true
  | _ => false

theorem Request.accessesStore_of_looksForCluster {r : Request} (hr : r.looksForCluster = true) :
    r.accessesStore = true := by
  cases r <;> first | rfl | cases hr

namespace AddressSync

variable {σ : Type}

/-! ## Steps that stay at their replica -/

/-- A step that calls no replica but the one it is taken on. -/
def Local (step : Step) : Prop := ∀ t, (step t).Asks fun r : Request => ∃ c, r = .call t c

theorem local_ensureAddress (spec : AddressSpec) : Local (ensureAddress spec) :=
  fun _ => ⟨⟨_, rfl⟩, fun _ => trivial⟩

theorem local_ensureQueue (p : QueuePayload) : Local (ensureQueue p) := by
  refine fun t => ⟨⟨_, rfl⟩, fun created => ?_⟩
  cases created with
  | ok v => trivial
  | error e =>
    change Program.Asks _ (if _ then _ else _)
    split
    · refine ⟨⟨_, rfl⟩, fun updated => ?_⟩
      cases updated <;> trivial
    · trivial

theorem local_deleteQueue (queue : String) : Local (deleteQueue queue) :=
  fun _ => ⟨⟨_, rfl⟩, fun _ => trivial⟩

theorem Local.asks {step : Step} (hstep : Local step) (l : List ReplicaTarget) :
    (runStep step l).Asks fun r : Request => r.isReadOrCall = true := by
  refine Program.Asks.each (fun t => ?_) l
  have hcalls : (step t).Asks fun r : Request => r.isReadOrCall = true :=
    (hstep t).mono (by rintro _ ⟨c, rfl⟩; rfl)
  exact hcalls.bind fun _ => trivial

/-! ## Bringing and removing -/

theorem asks_replicas (domain ns : String) (spec : AddressSpec) :
    (replicas domain ns spec).run.Asks fun r : Request => r.isReadOrCall = true :=
  (ResolvedTargets.reading_resolve domain ns (.ofNames spec.applyToClusterNames)).asks.mono
    fun r hr => by simp [Request.isReadOrCall, hr]

theorem asks_conclude {allowed : Request → Prop} (f : BatchFailure) :
    (conclude f).run.Asks allowed := by
  unfold conclude
  split <;> trivial

theorem asks_ensureOn (spec : AddressSpec) (found : ResolvedTargets) :
    (ensureOn spec found).Asks fun r : Request => r.isReadOrCall = true := by
  refine ((local_ensureAddress spec).asks _).bind fun addressed => ?_
  cases QueuePayload.ofSpec? spec with
  | none => trivial
  | some p => exact ((local_ensureQueue p).asks _).bind fun _ => trivial

theorem asks_ensure (domain ns : String) (spec : AddressSpec) :
    (ensure domain ns spec).run.Asks fun r : Request => r.isReadOrCall = true := by
  refine Task.asks_bind (asks_replicas domain ns spec) fun found => ?_
  split
  · trivial
  · exact Task.asks_bind (Task.asks_lift (asks_ensureOn spec found)) asks_conclude

theorem asks_deleteUnbound (address : String) (t : ReplicaTarget) :
    (deleteUnbound address t).Asks fun r : Request => r.isReadOrCall = true := by
  refine ⟨rfl, fun answer => ?_⟩
  cases answer with
  | error e => trivial
  | ok bindings =>
    change Program.Asks _ (if _ then _ else _)
    split
    · trivial
    · exact ⟨rfl, fun _ => trivial⟩

theorem asks_removeQueue (spec : AddressSpec) (queue : String) (found : ResolvedTargets) :
    (removeQueue spec queue found).run.Asks fun r : Request => r.isReadOrCall = true :=
  Task.asks_bind (Task.asks_lift ((local_deleteQueue queue).asks _)) fun _ =>
    Task.asks_bind (Task.asks_lift (.each (asks_deleteUnbound _) _)) fun _ => asks_conclude _

/-- What deleting an address asks for: to delete it, at one replica or another. -/
theorem asks_deleteAddress (address : String) (targets : List ReplicaTarget) :
    (deleteAddress address targets).run.Asks fun r :
    Request => ∃ t, r = .call t (.deleteAddress address) := by
  induction targets with
  | nil => trivial
  | cons t rest ih =>
    rw [deleteAddress]
    refine Task.asks_bind (Task.asks_lift ⟨⟨t, rfl⟩, fun _ => trivial⟩) fun answer => ?_
    cases failureOf .addressDoesNotExist answer with
    | none => exact ih
    | some e => trivial

theorem asks_remove (domain ns : String) (spec : AddressSpec) :
    (remove domain ns spec).run.Asks fun r : Request => r.isReadOrCall = true := by
  refine Task.asks_bind (asks_replicas domain ns spec) fun found => ?_
  split
  · trivial
  · split
    · exact asks_removeQueue spec _ found
    · unfold removeAddress
      split
      · trivial
      · exact (asks_deleteAddress _ _).mono (by rintro _ ⟨t, rfl⟩; rfl)

/-! ## The first look -/

theorem ofNames_ne_named_nil (names : List String) : ClusterSelector.ofNames names ≠ .named [] := by
  unfold ClusterSelector.ofNames
  split
  · simp
  · next h => simpa using (not_or.mp h).1

theorem begins_resolve (domain ns : String) {selector : ClusterSelector}
    (h : selector ≠ .named []) :
    (ResolvedTargets.resolve domain ns selector).run.Begins
      fun r : Request => r.looksForCluster = true := by
  cases selector with
  | all => exact Task.begins_bind (Task.begins_bind (by rfl) _) _
  | named names =>
    cases names with
    | nil => exact absurd rfl h
    | cons name rest =>
      simp only [ResolvedTargets.resolve, ClusterSelector.clusters, pure_bind, List.map_cons,
        List.mapM_cons, map_eq_pure_bind]
      exact Task.begins_bind (Task.begins_bind (Task.begins_bind (by rfl) _) _) _

/-- Bringing an address begins with a look at the clusters. -/
theorem ensure_looksForCluster (h : Handler surroundings σ) (domain ns : String)
    (spec : AddressSpec) (s : σ) :
    ∃ x ∈ Task.transcript h (ensure domain ns spec) s, x.1.looksForCluster = true :=
  (Task.begins_bind (begins_resolve domain ns (ofNames_ne_named_nil _)) _).transcript h s

end AddressSync

end BrokerFleet
