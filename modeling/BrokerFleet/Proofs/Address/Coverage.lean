import BrokerFleet.Proofs.Address.Restart
import BrokerFleet.Proofs.Cluster.Names
import BrokerFleet.Proofs.Replica.Resolution

/-! # What observed pods cover

An address is brought to the replicas that its selector leads to, and a pod that comes back leads to
the addresses on its cluster. The two ways meet: the pod of a target leads back to every deployment
with the selector by which the target was found, and each of them is brought to its replicas
again. -/

namespace BrokerFleet

open AddressLifecycle

variable {σ : Type} {h : Handler surroundings σ} {config : Config} {m m' : AddressMemory} {s : σ}
  {k : ObjectKey} {a : Address}

/-! ## What is remembered -/

/-- A deployment of a valid declaration, with the selector of that declaration. -/
structure Deployment.Sound (d : Deployment) : Prop where
  valid : d.spec.violations = []
  selector : d.selector = .ofNames d.spec.applyToClusterNames

/-- All deployments that are remembered are sound. -/
def AddressMemory.Sound (m : AddressMemory) : Prop :=
  ∀ k d, m.deployments.get? k = some d → d.Sound

theorem sound_empty : AddressMemory.Sound {} := by
  intro k d hget
  cases hget

theorem sound_insert (hm : m.Sound) {d : Deployment} (hd : d.Sound) (k : ObjectKey) :
    AddressMemory.Sound { m with deployments := m.deployments.insert k d } := by
  intro k' d' hget
  by_cases hk : k' = k
  · subst hk
    rw [Dict.get?_insert_self] at hget
    obtain rfl := Option.some.inj hget
    exact hd
  · rw [Dict.get?_insert_of_ne _ _ hk] at hget
    exact hm k' d' hget

theorem sound_tracked (hm : m.Sound) (hvalid : a.spec.violations = []) (checksum : Option String) :
    (tracked a checksum m).Sound :=
  sound_insert (d := { spec := a.spec, selector := .ofNames a.spec.applyToClusterNames, checksum })
    hm
    ⟨hvalid, rfl⟩ a.metadata.key

theorem sound_forgotten (hm : m.Sound) (k : ObjectKey) : (forgotten k m).Sound := by
  intro k' d hget
  by_cases hk : k' = k
  · subst hk
    rw [forgotten, Dict.get?_erase_self] at hget
    cases hget
  · rw [forgotten, Dict.get?_erase_of_ne _ hk] at hget
    exact hm k' d hget

theorem sound_outdated {l : List (ObjectKey × Deployment)} (hm : m.Sound)
    (hl : ∀ e ∈ l, e.2.Sound) :
    (l.foldl outdated m).Sound := by
  induction l generalizing m with
  | nil => exact hm
  | cons e rest ih =>
    obtain ⟨he, hrest⟩ := List.forall_mem_cons.mp hl
    exact ih (sound_insert (d := { e.2 with checksum := none }) hm ⟨he.valid, he.selector⟩ e.1)
      hrest

theorem sound_of_performed {p : Passage} (hperformed : Performed h config m s p m') (hm : m.Sound) :
    m'.Sound := by
  cases hperformed with
  | applied happlied =>
    cases happlied with
    | refused => exact hm
    | unchanged => exact hm
    | seeded hvalid => exact sound_tracked hm hvalid _
    | failed hvalid => exact sound_tracked hm hvalid _
    | synced hvalid => exact sound_tracked (sound_tracked hm hvalid _) hvalid _
  | cleaned hcleaned =>
    cases hcleaned with
    | failed => exact hm
    | forgotten => exact sound_forgotten hm _
  | noticed hnoticed =>
    cases hnoticed with
    | passed => exact hm
    | unowned => exact hm
    | owned _ _ hstarts =>
      refine sound_outdated hm fun e he => ?_
      have hlisted : e ∈ m.deployments.entries := (List.mem_filter.mp (hstarts.subset he)).1
      exact hm e.1 e.2 (Dict.mem_entries_iff.mp hlisted)

theorem carryOut_sound (turns : List (Turn σ)) (hm : m.Sound) (s : σ) :
    (carryOut h config turns m s).2.1.Sound := by
  induction turns generalizing m s with
  | nil => exact hm
  | cons t rest ih =>
    exact ih (sound_of_performed (perform_performed h config t.operation m _) hm) _

/-! ## What waits for an apply -/

/-- A deployment is remembered, and has to be applied again. -/
structure AddressMemory.Awaits (m : AddressMemory) (k : ObjectKey) : Prop where
  remembered : m.deployments.contains k = true
  stale : m.checksum k = none

/-- Only an operation on a deployment that succeeds ends the wait for an apply of it. -/
theorem awaits_of_performed {p : Passage} (hperformed : Performed h config m s p m')
    (hopen : p.operation.Concerns k → p.succeeded = false) (hk : m.Awaits k) : m'.Awaits k := by
  cases hperformed with
  | @applied a _ _ _ happlied =>
    have hfailed {m : AddressMemory} (hk : m.Awaits k) : (tracked a none m).Awaits k :=
      ⟨by rw [contains_tracked, hk.remembered, ite_self],
        by rw [checksum_tracked, hk.stale, ite_self]⟩
    have htracked {m : AddressMemory} (hk : m.Awaits k) (hkey : a.metadata.key ≠ k)
        (checksum : Option String) : (tracked a checksum m).Awaits k :=
      ⟨by rw [contains_tracked, if_neg hkey, hk.remembered],
        by rw [checksum_tracked, if_neg hkey, hk.stale]⟩
    cases happlied with
    | refused => exact hk
    | unchanged => exact hk
    | seeded => exact htracked hk (fun hkey => nomatch hopen hkey) _
    | failed => exact hfailed hk
    | synced => exact htracked (hfailed hk) (fun hkey => nomatch hopen hkey) _
  | @cleaned a _ _ _ hcleaned =>
    cases hcleaned with
    | failed => exact hk
    | forgotten =>
      have hkey : a.metadata.key ≠ k := fun hkey => nomatch hopen hkey
      exact ⟨by rw [contains_forgotten, if_neg hkey, hk.remembered],
        by rw [checksum_forgotten, if_neg hkey, hk.stale]⟩
  | noticed hnoticed =>
    refine ⟨(contains_of_noticed hnoticed k).mpr (.inr hk.remembered), ?_⟩
    rw [checksum_of_noticed hnoticed, hk.stale, ite_self]

theorem carryOut_awaits {turns : List (Turn σ)} {s : σ}
    (hopen : ∀ p ∈ (carryOut h config turns m s).1, p.operation.Concerns k → p.succeeded = false)
    (hk : m.Awaits k) : (carryOut h config turns m s).2.1.Awaits k := by
  induction turns generalizing m s with
  | nil => exact hk
  | cons t rest ih =>
    obtain ⟨hfirst, hrest⟩ := List.forall_mem_cons.mp hopen
    exact ih hrest (awaits_of_performed (perform_performed h config t.operation m _) hfirst hk)

/-- Where no turn is on a deployment, no operation of the run is. -/
theorem not_concerns_of_carryOut {turns : List (Turn σ)}
    (hothers : ∀ t ∈ turns, ¬ t.operation.Concerns k) (m : AddressMemory) (s : σ) :
    ∀ p ∈ (carryOut h config turns m s).1, ¬ p.operation.Concerns k := by
  induction turns generalizing m s with
  | nil => simp [carryOut]
  | cons t rest ih =>
    obtain ⟨hother, hrest⟩ := List.forall_mem_cons.mp hothers
    exact List.forall_mem_cons.mpr ⟨hother, ih hrest _ _⟩

theorem synchronizes_of_awaits (hvalid : a.spec.violations = []) (hawaits : m.Awaits a.metadata.key)
    (s : σ) :
    Synchronizes h config a m s := by
  refine (synchronizes_iff hvalid).mpr ⟨?_, .inl hawaits.remembered⟩
  rw [Bool.eq_false_iff, ne_eq, isApplied_iff, hawaits.stale]
  exact nofun

/-! ## From a target back to deployments -/

/-- The pod of a target: it has the name of the target's place, and belongs to the target's cluster
by the stateful set that controls it, or by its label if there is none. -/
structure StandsFor (ns : String) (t : ReplicaTarget) (pod : Pod) : Prop where
  key : pod.metadata.key = ⟨ns, (ClusterNames.ofName t.cluster.name).pod t.ordinal⟩
  controlled : ∀ o ∈ controllers pod, o.name = statefulSetName t.cluster.name
  labelled : controllers pod = [] → pod.metadata.label? clusterLabel = some t.cluster.name

variable {ns : String} {t : ReplicaTarget} {pod : Pod}

theorem StandsFor.ownerIn_eq (hpod : StandsFor ns t pod) (hordinal : t.ordinal < 4294967296) :
    ownerIn pod.metadata.key (.ok (some pod)) =
      some ⟨statefulSetName t.cluster.name, t.ordinal, pod.metadata.labelSet⟩ := by
  have hset : statefulSetOf? pod = some (statefulSetName t.cluster.name) :=
    statefulSetOf?_eq hpod.controlled fun hnone => ⟨_, hpod.labelled hnone, rfl⟩
  have hplace : podOrdinal? pod.metadata.key.name (statefulSetName t.cluster.name) =
      some t.ordinal := by
    rw [hpod.key]
    exact podOrdinal?_append hordinal
  simp [ownerIn, hset, hplace]

/-- Where someone listens to every pass that is asked for, none goes unheard. -/
theorem not_unheard (hheard : ∀ k s, (h (.send (.address k)) s).1 = true) {α : Type} (p : Course α)
    (s : σ) :
    ¬ ∃ k, ⟨.send (.address k), false⟩ ∈ p.transcript h s := by
  rintro ⟨k, hk⟩
  refine Program.forall_transcript (I := surroundings)
    (P := fun x => x ≠ ⟨.send (.address k), false⟩) ?_
    p s _ hk rfl
  intro r s hx
  obtain rfl : r = .send (.address k) := congrArg Sigma.fst hx
  have hanswer : (h (.send (.address k)) s).1 = false := eq_of_heq (Sigma.mk.inj hx).2
  rw [hheard k s] at hanswer
  cases hanswer

/-- The pod of a target that was found by a selector, observed in a new incarnation, asks for a pass
for every deployment in the namespace with that selector, unless no one listened to one of the
passes; and the next apply of each, whatever is done to others before it, synchronizes. -/
theorem observer_covers_targets (config : Config) (turns : List (Turn σ)) (s₀ : σ) {domain : String}
    {selector : ClusterSelector} {s₁ : σ} {found : ResolvedTargets}
    (hfound : Task.outcome h (ResolvedTargets.resolve domain ns selector) s₁ = .ok found)
    (ht : t ∈ found.targets) (hname : t.cluster.name ≠ "") (hpod : StandsFor ns t pod)
    (hstored : (h (.getPod pod.metadata.key) s).1 = .ok (some pod)) {uid : String}
    (hnew : IsNew (carryOut h config turns {} s₀).2.1 pod uid) :
    let m := (carryOut h config turns {} s₀).2.1
    let observed := perform h config (.pod pod) m s
    (∃ k, ⟨.send (.address k), false⟩ ∈ observed.1.log) ∨
      ∀ k d, m.deployments.get? k = some d → k.ns = ns → d.selector = selector →
        k ∈ triggered observed.1.log ∧ observed.2.1.checksum k = none ∧
        ∀ (later : List (Turn σ)) (s₂ : σ), (∀ t ∈ later, ¬ t.operation.Concerns k) →
          ∀ a : Address, a.metadata.key = k → a.spec = d.spec →
            ∀ s₃, Synchronizes h config a (carryOut h config later observed.2.1 s₂).2.1 s₃ := by
  intro m observed
  obtain ⟨happlies, hordinal⟩ := ResolvedTargets.applies_of_resolve_eq_ok hfound ht
  have howner := hpod.ownerIn_eq (Nat.lt_trans hordinal (by decide))
  rw [← hstored] at howner
  have hlog : observed.1.log = ((onPod pod).run m).transcript h s := by
    rw [show observed = _ from perform_pod h config pod m s]
  have hnoticed : Noticed h pod m s observed.1.log observed.2.1 := perform_noticed h config pod m s
  have hsound : m.Sound := carryOut_sound turns sound_empty s₀
  refine (onPod_triggers hnew howner).symm.imp (fun hunheard => hlog ▸ hunheard) ?_
  intro hall k d hd hns hselector
  -- the name of the pod leads to the name of the cluster, and the selector applied to that
  have htargets : targets pod.metadata.key.ns
      (clusterOfStatefulSet (statefulSetName t.cluster.name)) k d =
      true := by
    simp [targets, hpod.key, hns, hselector, clusterOfStatefulSet_statefulSetName hname, happlies]
  have htriggered : k ∈ triggered observed.1.log := by
    rw [hlog, hall]
    exact List.mem_map_of_mem (f := Prod.fst)
      (List.mem_filter.mpr ⟨Dict.mem_entries_iff.mpr hd, htargets⟩)
  have hawaits : observed.2.1.Awaits k :=
    ⟨(contains_of_noticed hnoticed k).mpr (.inl htriggered),
      by rw [checksum_of_noticed hnoticed, if_pos htriggered]⟩
  refine ⟨htriggered, hawaits.stale, fun later s₂ hothers a hkey hspec s₃ => ?_⟩
  subst hkey
  have hlater : (carryOut h config later observed.2.1 s₂).2.1.Awaits a.metadata.key :=
    carryOut_awaits (fun p hp hconcerns =>
      absurd hconcerns (not_concerns_of_carryOut hothers _ _ p hp)) hawaits
  exact synchronizes_of_awaits (hspec ▸ (hsound _ d hd).valid) hlater s₃

def onlyTarget : ReplicaTarget where
  cluster := ⟨"n", "c"⟩
  ordinal := 0
  fqdn := "c-ss-0.c-hdls-svc.n.svc.local"
  credentials := {}

theorem standsFor_returningPod : StandsFor "n" onlyTarget returningPod where
  key := by decide
  controlled := by decide
  labelled := by decide

/-- The replica of an applied address comes back: a pass for the address is asked for, and it
synchronizes. -/
theorem observer_covers_targets_returningPod :
    let m := (carryOut oneReplica {} [⟨id, .apply plainAddress⟩] {} ()).2.1
    let observed := perform oneReplica {} (.pod returningPod) m ()
    Task.outcome oneReplica (ResolvedTargets.resolve "local" "n" .all) () = .ok ⟨[onlyTarget], []⟩ ∧
      onlyTarget.cluster.name ≠ "" ∧ StandsFor "n" onlyTarget returningPod ∧
      (oneReplica (.getPod returningPod.metadata.key) ()).1 = .ok (some returningPod) ∧
      IsNew m returningPod "u" ∧ plainAddress.metadata.key ∈ triggered observed.1.log ∧
      ∀ s, Synchronizes oneReplica {} plainAddress
        (carryOut oneReplica {} [] observed.2.1 ()).2.1 s := by
  intro m observed
  have hfound : Task.outcome oneReplica (ResolvedTargets.resolve "local" "n" .all) () =
      .ok ⟨[onlyTarget], []⟩ := rfl
  have hstored : (oneReplica (.getPod returningPod.metadata.key) ()).1 = .ok (some returningPod) :=
    rfl
  have hnew : IsNew m returningPod "u" := ⟨rfl, by decide +kernel⟩
  have hget : m.deployments.get? plainAddress.metadata.key =
      some ⟨plainAddress.spec, .all, some "1"⟩ := by
    decide +kernel
  have hname : onlyTarget.cluster.name ≠ "" := by decide
  refine ⟨hfound, hname, standsFor_returningPod, hstored, hnew, ?_⟩
  obtain ⟨k, hunheard⟩ | hcovered :=
    observer_covers_targets {} [⟨id, .apply plainAddress⟩] () hfound
    (List.mem_singleton_self _) hname standsFor_returningPod hstored hnew
  · exact absurd ⟨k, hunheard⟩ (not_unheard (fun _ _ => rfl) _ ())
  · obtain ⟨htriggered, -, hnext⟩ := hcovered _ _ hget rfl rfl
    exact ⟨htriggered, hnext [] () (fun _ ht => absurd ht List.not_mem_nil) plainAddress rfl rfl⟩

end BrokerFleet
