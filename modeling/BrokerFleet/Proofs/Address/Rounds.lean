import BrokerFleet.Proofs.Address.Incarnations

/-! # Rounds of passes

While someone listens, a pod that is seen ready in another incarnation sets off a round: its owner
is looked up, and a pass is asked for each deployment on the owner's cluster, once. Nothing else
changes, so the rounds that a pod sets off in a run are as many as the changes of its
incarnation. -/

namespace BrokerFleet.AddressLifecycle

variable {σ : Type} {h : Handler surroundings σ} {Q : σ → Prop} {m m' : AddressMemory} {s : σ}
  {K : ObjectKey} {log : List surroundings.Reply}

/-- In these states someone listens to the passes that are asked for, and neither asking for one nor
looking up a pod leads out of them. -/
structure Listens (h : Handler surroundings σ) (Q : σ → Prop) : Prop where
  heard : ∀ k s, Q s → (h (.send (.address k)) s).1 = true
  send : ∀ k s, Q s → Q (h (.send (.address k)) s).2
  getPod : ∀ k s, Q s → Q (h (.getPod k) s).2

/-! ## Invalidating -/

/-- Passes that were asked for and heard. -/
def passes (l : List (ObjectKey × Deployment)) : List surroundings.Reply :=
  l.map fun e => ⟨.send (.address e.1), true⟩

theorem triggered_passes (l : List (ObjectKey × Deployment)) :
    triggered (passes l) = l.map Prod.fst := by
  induction l with
  | nil => rfl
  | cons e rest ih => exact congrArg (e.1 :: ·) ih

/-- Where someone listens, a pass is asked for every deployment on the cluster. -/
theorem invalidate_listens (hlistens : Listens h Q) (ns cluster : String)
    (l : List (ObjectKey × Deployment)) (m : AddressMemory) (hs : Q s) :
    let asked := l.filter fun e => targets ns cluster e.1 e.2
    ((invalidate ns cluster l).run m).transcript h s = passes asked ∧
      (((invalidate ns cluster l).run m).run h s).1 = (asked.length, asked.foldl outdated m) ∧
      Q (((invalidate ns cluster l).run m).run h s).2 := by
  induction l generalizing m s with
  | nil => exact ⟨rfl, rfl, hs⟩
  | cons e rest ih =>
    obtain ⟨k, d⟩ := e
    rw [run_invalidate_cons]
    by_cases htargets : targets ns cluster k d = true
    · obtain ⟨hasked, hvalue, hkept⟩ := ih (outdated m (k, d)) (hlistens.send k s hs)
      rw [if_pos htargets, List.filter_cons, if_pos htargets, transcript_sendTrigger_bind,
        run_sendTrigger_bind, hlistens.heard k s hs]
      simp [Program.transcript_bind, Program.run_bind, hasked, hvalue, hkept, passes]
    · rw [if_neg htargets, List.filter_cons, if_neg htargets]
      exact ih m hs

/-- What is outdated of a memory is what it remembers, with the versions of some deployments
forgotten. -/
theorem get?_outdated_of_entries {l : List (ObjectKey × Deployment)}
    (hnodup : (l.map Prod.fst).Nodup) (hl : ∀ e ∈ l, m.deployments.get? e.1 = some e.2)
    (k : ObjectKey) :
    (l.foldl outdated m).deployments.get? k = (m.deployments.get? k).map fun d =>
      if k ∈ l.map Prod.fst then { d with checksum := none } else d := by
  induction l generalizing m with
  | nil => simp
  | cons e rest ih =>
    obtain ⟨k', d'⟩ := e
    obtain ⟨hfresh, hnodup⟩ := List.nodup_cons.mp hnodup
    obtain ⟨hd', hrest⟩ := List.forall_mem_cons.mp hl
    have hkept : ∀ e ∈ rest, (outdated m (k', d')).deployments.get? e.1 = some e.2 := by
      intro e he
      have hne : e.1 ≠ k' := fun heq => hfresh (List.mem_map.mpr ⟨e, he, heq⟩)
      exact (Dict.get?_insert_of_ne _ _ hne).trans (hrest e he)
    rw [List.foldl_cons, ih hnodup hkept, List.map_cons]
    by_cases hk : k = k'
    · subst hk
      simp [outdated, hd', hfresh]
    · rw [outdated, Dict.get?_insert_of_ne _ _ hk]
      exact congrArg (Option.map · _)
        (funext fun d => ite_congr (by simp [hk]) (fun _ => rfl) fun _ => rfl)

/-! ## A round -/

/-- A deployment that is remembered and applies to a cluster of a namespace. -/
def Targeted (m : AddressMemory) (ns cluster : String) (k : ObjectKey) : Prop :=
  ∃ d, m.deployments.get? k = some d ∧ k.ns = ns ∧ d.selector.appliesTo cluster = true

theorem targets_iff {ns cluster : String} {k : ObjectKey} {d : Deployment} :
    targets ns cluster k d = true ↔ k.ns = ns ∧ d.selector.appliesTo cluster = true := by
  rw [targets, Bool.and_eq_true, beq_iff_eq]

/-- What a pod asks that came back to a cluster: it is looked up, its owner on the cluster is found,
and a pass is asked for each deployment there, once, and heard. -/
structure Round (m : AddressMemory) (K : ObjectKey) (cluster : String)
    (log : List surroundings.Reply) : Prop where
  found : ∃ answer sent, log = ⟨.getPod K, answer⟩ :: sent ∧
    (∀ x ∈ sent, ∃ k, x = ⟨.send (.address k), true⟩) ∧
    ∃ o, ownerIn K answer = some o ∧ clusterOfStatefulSet o.statefulSet = cluster
  once : (triggered log).Nodup
  targeted : ∀ k, k ∈ triggered log ↔ Targeted m K.ns cluster k

/-- What is remembered after a round: the versions of the deployments that passes were asked for are
forgotten, and the incarnation of the pod is noted. -/
structure Invalidated (m : AddressMemory) (K : ObjectKey) (uid : String)
    (log : List surroundings.Reply) (m' : AddressMemory) : Prop where
  deployments : ∀ k, m'.deployments.get? k = (m.deployments.get? k).map fun d =>
    if k ∈ triggered log then { d with checksum := none } else d
  readyPods : m'.readyPods = m.readyPods.insert K uid

section Round

variable {pod : Pod} {o : PodOwner} {uid : String}

theorem mem_onCluster {k : ObjectKey} : k ∈ (onCluster m pod o).map Prod.fst ↔
    Targeted m pod.metadata.key.ns (clusterOfStatefulSet o.statefulSet) k := by
  simp [onCluster, Targeted, Dict.mem_entries_iff, targets_iff]

theorem nodup_onCluster (m : AddressMemory) (pod : Pod) (o : PodOwner) :
    ((onCluster m pod o).map Prod.fst).Nodup :=
  m.deployments.nodup_keys.sublist (List.filter_sublist.map _)

theorem get?_of_mem_onCluster {e : ObjectKey × Deployment} (he : e ∈ onCluster m pod o) :
    m.deployments.get? e.1 = some e.2 :=
  Dict.mem_entries_iff.mp (List.mem_filter.mp he).1

theorem round_of_owner {answer : Except Failure (Option Pod)}
    (howner : ownerIn pod.metadata.key answer = some o) :
    Round m pod.metadata.key (clusterOfStatefulSet o.statefulSet)
      (⟨.getPod pod.metadata.key, answer⟩ :: passes (onCluster m pod o)) where
  found := by
    refine ⟨answer, _, rfl, fun x hx => ?_, o, howner, rfl⟩
    obtain ⟨e, -, rfl⟩ := List.mem_map.mp hx
    exact ⟨e.1, rfl⟩
  once := (triggered_passes _).symm ▸ nodup_onCluster m pod o
  targeted _ := (triggered_passes _).symm ▸ mem_onCluster

theorem invalidated_outdated (answer : Except Failure (Option Pod)) :
    Invalidated m pod.metadata.key uid
      (⟨.getPod pod.metadata.key, answer⟩ :: passes (onCluster m pod o))
      ((onCluster m pod o).foldl outdated (sighted pod.metadata.key uid m)) where
  deployments k := by
    have htriggered := triggered_passes (onCluster m pod o)
    exact htriggered.symm ▸ get?_outdated_of_entries (m := sighted pod.metadata.key uid m)
      (nodup_onCluster m pod o) (fun _ => get?_of_mem_onCluster) k
  readyPods := readyPods_outdated _ _

/-- A pod in a new incarnation whose owner is found sets off a round. -/
theorem onPod_round (hlistens : Listens h Q) (hnew : IsNew m pod uid) (hs : Q s)
    (howner : ownerIn pod.metadata.key (h (.getPod pod.metadata.key) s).1 = some o) :
    let log := ((onPod pod).run m).transcript h s
    let after := ((onPod pod).run m).run h s
    Round m pod.metadata.key (clusterOfStatefulSet o.statefulSet) log ∧
      after.1.1 = (triggered log).length ∧ Invalidated m pod.metadata.key uid log after.1.2 ∧
      Q after.2 := by
  obtain ⟨hasked, hvalue, hkept⟩ := invalidate_listens hlistens pod.metadata.key.ns
    (clusterOfStatefulSet o.statefulSet) m.deployments.entries (sighted pod.metadata.key uid m)
    (hlistens.getPod pod.metadata.key s hs)
  rw [run_onPod_of_new hnew, transcript_podOwner_bind, run_podOwner_bind, howner]
  dsimp only
  rw [hasked, hvalue]
  refine ⟨round_of_owner howner, ?_, invalidated_outdated _, hkept⟩
  exact (List.length_map _).symm.trans (congrArg List.length (triggered_passes _).symm)

/-! ## What is left of a memory -/

theorem targeted_of_map {forget : ObjectKey → Deployment → Deployment}
    (hforget : ∀ k d, (forget k d).selector = d.selector)
    (hmap : ∀ k, m'.deployments.get? k = (m.deployments.get? k).map (forget k))
    (ns cluster : String) (k : ObjectKey) : Targeted m' ns cluster k ↔ Targeted m ns cluster k := by
  simp only [Targeted, hmap, Option.map_eq_some_iff]
  constructor
  · rintro ⟨_, ⟨d, hd, rfl⟩, hns, happlies⟩
    exact ⟨d, hd, hns, hforget k d ▸ happlies⟩
  · rintro ⟨d, hd, hns, happlies⟩
    exact ⟨_, ⟨d, hd, rfl⟩, hns, (hforget k d).symm ▸ happlies⟩

/-- An observed pod leaves the deployments that are on a cluster. -/
theorem targeted_of_noticed (hnoticed : Noticed h pod m s log m') (ns cluster : String)
    (k : ObjectKey) :
    Targeted m' ns cluster k ↔ Targeted m ns cluster k := by
  cases hnoticed with
  | passed => exact Iff.rfl
  | unowned => exact Iff.rfl
  | @owned uid _ _ _ _ hstarts =>
    have hnodup := (nodup_onCluster m pod _).sublist (hstarts.sublist.map Prod.fst)
    have hmap := get?_outdated_of_entries (m := sighted pod.metadata.key uid m) hnodup fun e he =>
      get?_of_mem_onCluster (hstarts.subset he)
    refine targeted_of_map (m := m) (fun k d => ?_) hmap ns cluster k
    split <;> rfl

theorem Round.of_targeted
    (hsame : ∀ ns cluster k, Targeted m' ns cluster k ↔ Targeted m ns cluster k) {cluster : String}
    (hround : Round m' K cluster log) : Round m K cluster log where
  found := hround.found
  once := hround.once
  targeted k := (hround.targeted k).trans (hsame K.ns cluster k)

theorem onPod_keeps (hlistens : Listens h Q) (pod : Pod) (m : AddressMemory) (hs : Q s) :
    Q (((onPod pod).run m).run h s).2 := by
  by_cases hseen : ∀ uid, ¬ IsNew m pod uid
  · rw [run_onPod_of_seen hseen]
    exact hs
  · obtain ⟨uid, hnew⟩ := Classical.not_forall_not.mp hseen
    cases howner : ownerIn pod.metadata.key (h (.getPod pod.metadata.key) s).1 with
    | none =>
      rw [run_onPod_of_new hnew, run_podOwner_bind, howner]
      exact hlistens.getPod _ s hs
    | some o => exact (onPod_round hlistens hnew hs howner).2.2.2

end Round

/-! ## Runs -/

def podTurns (events : List ((σ → σ) × Pod)) : List (Turn σ) := events.map fun e => ⟨e.1, .pod e.2⟩

/-- Whether a pod was observed, and something was asked. -/
def asksFor (K : ObjectKey) (p : Passage) : Bool :=
  match p.operation with
  | .pod pod => pod.metadata.key == K && !p.log.isEmpty
  | _ => false

/-- The incarnations in which a pod was seen ready, in order. -/
def incarnations (K : ObjectKey) (pods : List Pod) : List String :=
  (pods.filter fun pod => pod.metadata.key == K).filterMap incarnation?

/-- How often the incarnation changes. -/
def changes : Option String → List String → Nat
  | _, [] => 0
  | last, uid :: rest => if last = some uid then changes last rest else changes (some uid) rest + 1

section Changes

variable {pod : Pod} {uid : String} {last : Option String}

theorem changes_of_new (hkey : pod.metadata.key = K) (hready : incarnation? pod = some uid)
    (hlast : last ≠ some uid) (pods : List Pod) :
    changes last (incarnations K (pod :: pods)) = changes (some uid) (incarnations K pods) + 1 := by
  simp [incarnations, hkey, hready, changes, hlast]

theorem changes_of_seen
    (hseen : ∀ uid, pod.metadata.key = K → incarnation? pod = some uid → last = some uid)
    (pods : List Pod) :
    changes last (incarnations K (pod :: pods)) = changes last (incarnations K pods) := by
  by_cases hkey : pod.metadata.key = K
  · cases hready : incarnation? pod with
    | none => simp [incarnations, hkey, hready]
    | some uid => simp [incarnations, hkey, hready, changes, hseen uid hkey hready]
  · simp [incarnations, hkey]

theorem sighting_of_seen
    (hseen : ∀ uid, pod.metadata.key = K → incarnation? pod = some uid → last = some uid) :
    (Operation.pod pod).sighting K last = last := by
  by_cases hkey : pod.metadata.key = K
  · cases hready : incarnation? pod with
    | none => simp [Operation.sighting, hready]
    | some uid => simp [Operation.sighting, hready, hseen uid hkey hready]
  · simp [Operation.sighting, hkey]

end Changes

section Step

variable (config : Config) {pod : Pod}

theorem perform_pod_of_new (hlistens : Listens h Q) {uid : String} (hnew : IsNew m pod uid)
    (hs : Q s) {o : PodOwner}
    (howner : ownerIn pod.metadata.key (h (.getPod pod.metadata.key) s).1 = some o) :
    let first := (perform h config (.pod pod) m s).1
    asksFor pod.metadata.key first = true ∧
      Round m pod.metadata.key (clusterOfStatefulSet o.statefulSet) first.log := by
  intro first
  have hround : Round m pod.metadata.key (clusterOfStatefulSet o.statefulSet) first.log := by
    simpa only [first, perform_pod] using (onPod_round hlistens hnew hs howner).1
  obtain ⟨answer, sent, hlog, -⟩ := hround.found
  have hoperation : first.operation = .pod pod := by simp only [first, perform_pod]
  exact ⟨by simp [asksFor, hoperation, hlog], hround⟩

theorem asksFor_of_seen (hseen : ∀ uid, pod.metadata.key = K → ¬ IsNew m pod uid) :
    asksFor K (perform h config (.pod pod) m s).1 = false := by
  by_cases hkey : pod.metadata.key = K
  · rw [perform_pod_of_seen fun uid => hseen uid hkey]
    simp [asksFor]
  · simp [perform_pod, asksFor, hkey]

theorem perform_pod_keeps (hlistens : Listens h Q) (pod : Pod) (m : AddressMemory) (hs : Q s) :
    Q (perform h config (.pod pod) m s).2.2 := by
  rw [perform_pod]
  exact onPod_keeps hlistens pod m hs

end Step

/-- A pod whose owner is found whenever it is looked up sets off a round at each change of its
incarnation, and asks nothing otherwise. -/
theorem rounds_eq_changes (hlistens : Listens h Q) (config : Config)
    (hresolves : ∀ s, Q s → ∃ o, ownerIn K (h (.getPod K) s).1 = some o)
    (events : List ((σ → σ) × Pod)) (hmeanwhile : ∀ e ∈ events, ∀ s, Q s → Q (e.1 s))
    (m : AddressMemory) (hs : Q s) :
    let asked := (carryOut h config (podTurns events) m s).1.filter (asksFor K)
    asked.length = changes (m.readyPods.get? K) (incarnations K (events.map Prod.snd)) ∧
      ∀ p ∈ asked, ∃ cluster, Round m K cluster p.log := by
  induction events generalizing m s with
  | nil => simp [podTurns, carryOut, incarnations, changes]
  | cons e rest ih =>
    obtain ⟨change, pod⟩ := e
    obtain ⟨hchange, hrest⟩ := List.forall_mem_cons.mp hmeanwhile
    have hs : Q (change s) := hchange s hs
    have hnoticed := perform_noticed h config pod m (change s)
    have hlast := readyPods_of_noticed hnoticed K
    obtain ⟨hcount, hrounds⟩ := ih hrest _ (perform_pod_keeps config hlistens pod m hs)
    -- the rounds to come are rounds of this memory too: what is on a cluster stays on it
    have hlater := fun p hp => (hrounds p hp).imp fun _ hround =>
      hround.of_targeted (targeted_of_noticed hnoticed)
    simp only [podTurns, List.map_cons, carryOut, List.filter_cons]
    by_cases hnew : ∃ uid, pod.metadata.key = K ∧ IsNew m pod uid
    · obtain ⟨uid, rfl, hnew⟩ := hnew
      obtain ⟨o, howner⟩ := hresolves (change s) hs
      obtain ⟨hasks, hround⟩ := perform_pod_of_new config hlistens hnew hs howner
      have hnoted : (Operation.pod pod).sighting pod.metadata.key
          (m.readyPods.get? pod.metadata.key) = some uid := by
        simp [Operation.sighting, hnew.1]
      rw [hlast, hnoted] at hcount
      rw [if_pos hasks, List.length_cons, changes_of_new rfl hnew.1 hnew.2]
      exact ⟨congrArg (· + 1) hcount, List.forall_mem_cons.mpr ⟨⟨_, hround⟩, hlater⟩⟩
    · have hseen (uid : String) (hkey : pod.metadata.key = K)
          (hready : incarnation? pod = some uid) :
          m.readyPods.get? K = some uid := by
        subst hkey
        exact Decidable.byContradiction fun hget => hnew ⟨uid, rfl, hready, hget⟩
      have hasks := asksFor_of_seen (h := h) (s := change s) config fun uid hkey hnew' =>
        hnew ⟨uid, hkey, hnew'⟩
      rw [hlast, sighting_of_seen hseen] at hcount
      rw [if_neg (Bool.eq_false_iff.mp hasks), changes_of_seen hseen]
      exact ⟨hcount, hlater⟩

/-- While someone listens, a pod that is not ready, has no incarnation or is in the one that was
seen last is passed over. In a new incarnation, and with an owner that is found, it sets off a
round: the deployments on the owner's cluster are made stale and asked for, once each, and nothing
else is changed. So where its owner is found, a pod sets off as many rounds as its incarnation
changes. -/
theorem onPod_rounds (hlistens : Listens h Q) :
    (∀ pod m, (pod.isReady = false ∨ pod.metadata.uid = none ∨
        ∃ uid, pod.metadata.uid = some uid ∧ m.readyPods.get? pod.metadata.key = some uid) →
      (onPod pod).run m = pure (0, m)) ∧
    (∀ pod m s uid o, Q s → pod.isReady = true → pod.metadata.uid = some uid →
      m.readyPods.get? pod.metadata.key ≠ some uid →
      ownerIn pod.metadata.key (h (.getPod pod.metadata.key) s).1 = some o →
      let log := ((onPod pod).run m).transcript h s
      let after := (((onPod pod).run m).run h s).1
      Round m pod.metadata.key (clusterOfStatefulSet o.statefulSet) log ∧
        after.1 = (triggered log).length ∧
        Invalidated m pod.metadata.key uid log after.2) ∧
    ∀ K, (∀ s, Q s → ∃ o, ownerIn K (h (.getPod K) s).1 = some o) →
      ∀ config events m s, Q s → (∀ e ∈ events, ∀ s, Q s → Q (e.1 s)) →
        let asked := (carryOut h config (podTurns events) m s).1.filter (asksFor K)
        asked.length = changes (m.readyPods.get? K) (incarnations K (events.map Prod.snd)) ∧
          ∀ p ∈ asked, ∃ cluster, Round m K cluster p.log := by
  refine ⟨fun pod m hpassed => run_onPod_of_seen fun uid hnew => ?_, ?_, ?_⟩
  · obtain ⟨hready, huid⟩ : pod.isReady = true ∧ pod.metadata.uid = some uid := by
      simpa [incarnation?] using hnew.1
    rcases hpassed with hunready | hnone | ⟨uid', huid', hget⟩
    · cases hunready.symm.trans hready
    · cases hnone.symm.trans huid
    · exact hnew.2 (hget.trans (huid'.symm.trans huid))
  · intro pod m s uid o hs hready huid hget howner
    have hnew : IsNew m pod uid := ⟨by simp [incarnation?, hready, huid], hget⟩
    obtain ⟨hround, hcount, hinvalidated, -⟩ := onPod_round hlistens hnew hs howner
    exact ⟨hround, hcount, hinvalidated⟩
  · intro K hresolves config events m s hs hmeanwhile
    exact rounds_eq_changes hlistens config hresolves events hmeanwhile m hs

/-- The returning pod, come back once more. -/
def restartedPod : Pod :=
  { returningPod with metadata := { returningPod.metadata with uid := some "v" } }

/-- A pod that is seen in two incarnations, in the first of them twice, sets off two rounds for the
address that is applied to its cluster. -/
theorem onPod_rounds_restartedPod :
    let m := tracked plainAddress (some "1") {}
    let events := [(id, returningPod), (id, returningPod), (id, restartedPod)]
    let asked :=
      (carryOut oneReplica {} (podTurns events) m ()).1.filter (asksFor returningPod.metadata.key)
    asked.length = 2 ∧ (∀ p ∈ asked, ∃ cluster, Round m returningPod.metadata.key cluster p.log) ∧
      Targeted m "n" "c" plainAddress.metadata.key := by
  have hlistens : Listens oneReplica fun _ => True :=
    ⟨fun _ _ _ => rfl, fun _ _ _ => trivial, fun _ _ _ => trivial⟩
  obtain ⟨-, -, hrounds⟩ := onPod_rounds hlistens
  obtain ⟨hcount, hasked⟩ :=
    hrounds returningPod.metadata.key (fun s _ => ⟨⟨"c-ss", 0, .empty⟩, rfl⟩) {}
    [(id, returningPod), (id, returningPod), (id, restartedPod)]
      (tracked plainAddress (some "1") {}) () trivial
    fun _ _ _ _ => trivial
  exact ⟨hcount, hasked, _, rfl, rfl, rfl⟩

end BrokerFleet.AddressLifecycle
