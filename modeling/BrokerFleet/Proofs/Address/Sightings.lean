import BrokerFleet.Proofs.Address.Passages

/-! # What an observed pod does

A pod that is ready in another incarnation than the one seen last is noted, its owner is looked up,
and the deployments on the owner's cluster are invalidated. The note comes first: it stands whatever
the look-up finds. -/

namespace BrokerFleet.AddressLifecycle

variable {σ : Type}

/-! ## Triggers -/

/-- The key of an address that a pass was asked for, if it was. -/
def triggered? : surroundings.Reply → Option ObjectKey
  | ⟨.send (.address k), _⟩ => some k
  | _ => none

def triggered (log : List surroundings.Reply) : List ObjectKey := log.filterMap triggered?

def sends (deployments : List (ObjectKey × Deployment)) : List Request :=
  deployments.map fun e => .send (.address e.1)

theorem triggered_of_sends {log : List surroundings.Reply} {l : List (ObjectKey × Deployment)}
    (hsent : log.map Sigma.fst = sends l) : triggered log = l.map Prod.fst := by
  induction l generalizing log with
  | nil => rw [List.map_eq_nil_iff.mp hsent]; rfl
  | cons e rest ih =>
    obtain ⟨⟨r, heard⟩, log, rfl, rfl, hrest⟩ := List.map_eq_cons_iff.mp hsent
    rw [List.map_cons, ← ih hrest]
    rfl

/-! ## Invalidating -/

/-- A memory in which a deployment has to be applied again. -/
def outdated (m : AddressMemory) (e : ObjectKey × Deployment) : AddressMemory :=
  { m with deployments := m.deployments.insert e.1 { e.2 with checksum := none } }

theorem checksum_outdated (l : List (ObjectKey × Deployment)) (m : AddressMemory) (k : ObjectKey) :
    (l.foldl outdated m).checksum k = if k ∈ l.map Prod.fst then none else m.checksum k := by
  induction l generalizing m with
  | nil => rfl
  | cons e rest ih =>
    obtain ⟨k', d⟩ := e
    simp only [List.foldl_cons, ih, outdated, checksum_insert, List.map_cons, List.mem_cons,
      eq_comm (a := k)]
    by_cases hk : k' = k <;> simp only [hk, true_or, false_or, if_true, if_false, ite_self]

theorem contains_outdated (l : List (ObjectKey × Deployment)) (m : AddressMemory) (k : ObjectKey) :
    (l.foldl outdated m).deployments.contains k = true ↔
      k ∈ l.map Prod.fst ∨ m.deployments.contains k = true := by
  induction l generalizing m with
  | nil => simp
  | cons e rest ih =>
    rw [List.foldl_cons, ih, outdated, Dict.contains_insert, List.map_cons,
      List.mem_cons, or_left_comm, or_assoc]

theorem readyPods_outdated (l : List (ObjectKey × Deployment)) (m : AddressMemory) :
    (l.foldl outdated m).readyPods = m.readyPods := by
  induction l generalizing m with
  | nil => rfl
  | cons e rest ih => exact ih _

theorem run_invalidate_cons (ns cluster : String) (k : ObjectKey) (d : Deployment)
    (rest : List (ObjectKey × Deployment)) (m : AddressMemory) :
    (invalidate ns cluster ((k, d) :: rest)).run m =
      if targets ns cluster k d then
        sendTrigger (.address k) >>= fun heard =>
          if heard then
            (invalidate ns cluster rest).run (outdated m (k, d)) >>= fun r => pure (r.1 + 1, r.2)
          else pure (0, outdated m (k, d))
      else (invalidate ns cluster rest).run m := by
  rw [invalidate]
  split
  · refine congrArg (Program.ask _) (funext fun heard => ?_)
    cases heard <;> rfl
  · rfl

/-- Passes are asked for the deployments on a cluster, in order and until no one listens; those
asked for have to be applied again. -/
theorem invalidate_sends (h : Handler surroundings σ) (ns cluster : String)
    (l : List (ObjectKey × Deployment)) (m : AddressMemory) (s : σ) :
    ∃ asked, asked <+: l.filter (fun e => targets ns cluster e.1 e.2) ∧
      (((invalidate ns cluster l).run m).transcript h s).map Sigma.fst = sends asked ∧
      (((invalidate ns cluster l).run m).run h s).1.2 = asked.foldl outdated m ∧
      ((∀ k s, (h (.send (.address k)) s).1 = true) →
        asked = l.filter fun e => targets ns cluster e.1 e.2) := by
  induction l generalizing m s with
  | nil => exact ⟨[], List.nil_prefix, rfl, rfl, fun _ => rfl⟩
  | cons e rest ih =>
    obtain ⟨k, d⟩ := e
    rw [run_invalidate_cons]
    by_cases htargets : targets ns cluster k d = true
    · rw [if_pos htargets, List.filter_cons, if_pos htargets, transcript_sendTrigger_bind,
        run_sendTrigger_bind]
      -- the deployment is outdated by then: it stays so where no one listens
      cases hheard : (h (.send (.address k)) s).1 with
      | false =>
        refine ⟨[(k, d)], ⟨_, rfl⟩, rfl, rfl, fun hall => ?_⟩
        cases hheard.symm.trans (hall k s)
      | true =>
        obtain ⟨asked, hstarts, hsent, hmemory, hall⟩ := ih (outdated m (k, d))
          (h (.send (.address k)) s).2
        refine ⟨(k, d) :: asked, List.cons_prefix_cons.mpr ⟨rfl, hstarts⟩, ?_, ?_, ?_⟩
        · rw [if_pos rfl, Program.transcript_bind, List.map_cons]
          exact congrArg (_ :: ·) ((congrArg _ (List.append_nil _)).trans hsent)
        · simp [Program.run_bind, hmemory]
        · exact fun hheard => congrArg _ (hall hheard)
    · rw [if_neg htargets, List.filter_cons, if_neg htargets]
      exact ih m s

/-- Passes are asked for all the deployments on a cluster, unless no one listened to one of them. -/
theorem invalidate_triggers (h : Handler surroundings σ) (ns cluster : String)
    (l : List (ObjectKey × Deployment)) (m : AddressMemory) (s : σ) :
    let log := ((invalidate ns cluster l).run m).transcript h s
    triggered log = (l.filter fun e => targets ns cluster e.1 e.2).map Prod.fst ∨
      ∃ k, ⟨.send (.address k), false⟩ ∈ log := by
  induction l generalizing m s with
  | nil => exact .inl rfl
  | cons e rest ih =>
    obtain ⟨k, d⟩ := e
    rw [run_invalidate_cons]
    by_cases htargets : targets ns cluster k d = true
    · rw [if_pos htargets, List.filter_cons, if_pos htargets, transcript_sendTrigger_bind]
      cases hheard : (h (.send (.address k)) s).1 with
      | false => exact .inr ⟨k, List.mem_cons_self⟩
      | true =>
        rw [if_pos rfl, Program.transcript_bind, Program.pure_def, Program.transcript_done,
          List.append_nil]
        obtain hall | ⟨k', hk'⟩ := ih (outdated m (k, d)) (h (.send (.address k)) s).2
        · exact .inl (congrArg (k :: ·) hall)
        · exact .inr ⟨k', List.mem_cons_of_mem _ hk'⟩
    · rw [if_neg htargets, List.filter_cons, if_neg htargets]
      exact ih m s

/-! ## The owner of a pod -/

/-- The owner of a pod, by what looking the pod up found. -/
def ownerIn (k : ObjectKey) : Except Failure (Option Pod) → Option PodOwner
  | .error _ | .ok none => none
  | .ok (some pod) => do
    let statefulSet ← statefulSetOf? pod
    let ordinal ← podOrdinal? k.name statefulSet
    some { statefulSet, ordinal, labels := pod.metadata.labelSet }

theorem podOwner_eq (k : ObjectKey) : podOwner k =
    .ask (I := surroundings) (.getPod k) fun answer => .done (ownerIn k answer) := by
  refine congrArg (Program.ask _) (funext fun answer => ?_)
  rcases answer with _ | _ | pod <;> rfl

/-- The references to stateful sets that control a pod. -/
def controllers (pod : Pod) : List OwnerReference :=
  (pod.metadata.ownerReferences.getD []).filter fun o =>
    o.kind == "StatefulSet" && o.controller == some true

/-- A pod is of the stateful set that controls it, and else of that of the cluster that its label
names. -/
theorem statefulSetOf?_eq {pod : Pod} {set : String}
    (hcontrol : ∀ o ∈ controllers pod, o.name = set)
    (hlabel : controllers pod = [] → ∃ c, pod.metadata.label? clusterLabel = some c ∧
      statefulSetName c = set) :
    statefulSetOf? pod = some set := by
  have hfirst : statefulSetOf? pod = ((controllers pod).head?.map (·.name)).or
      ((pod.metadata.label? clusterLabel).map statefulSetName) := by
    rw [controllers, List.head?_filter]
    rfl
  rw [hfirst]
  cases hcontrollers : controllers pod with
  | nil =>
    obtain ⟨c, hc, hset⟩ := hlabel hcontrollers
    simp [hc, hset]
  | cons o rest => simp [hcontrol o (by simp [hcontrollers])]

section PodOwner

variable {β : Type} (h : Handler surroundings σ) (k : ObjectKey) (f : Option PodOwner → Course β)
  (s : σ)

theorem transcript_podOwner_bind : (podOwner k >>= f).transcript h s =
    ⟨.getPod k, (h (.getPod k) s).1⟩ ::
      (f (ownerIn k (h (.getPod k) s).1)).transcript h (h (.getPod k) s).2 := by
  rw [podOwner_eq]
  rfl

theorem run_podOwner_bind : (podOwner k >>= f).run h s =
    (f (ownerIn k (h (.getPod k) s).1)).run h (h (.getPod k) s).2 := by
  rw [podOwner_eq]
  rfl

end PodOwner

/-! ## Sightings -/

/-- The incarnation that a ready pod is in. -/
def incarnation? (pod : Pod) : Option String := if pod.isReady then pod.metadata.uid else none

/-- A memory in which an incarnation of a pod is noted. -/
def sighted (k : ObjectKey) (uid : String) (m : AddressMemory) : AddressMemory :=
  { m with readyPods := m.readyPods.insert k uid }

/-- A pod is ready in another incarnation than the one that was seen last. -/
def IsNew (m : AddressMemory) (pod : Pod) (uid : String) : Prop :=
  incarnation? pod = some uid ∧ m.readyPods.get? pod.metadata.key ≠ some uid

theorem run_onPod_of_seen {pod : Pod} {m : AddressMemory} (hseen : ∀ uid, ¬ IsNew m pod uid) :
    (onPod pod).run m = pure (0, m) := by
  unfold onPod
  cases hready : pod.isReady with
  | false => rfl
  | true =>
    cases huid : pod.metadata.uid with
    | none => rfl
    | some uid =>
      by_cases hget : m.readyPods.get? pod.metadata.key = some uid
      · simp [hget]
      · exact absurd ⟨by simp [incarnation?, hready, huid], hget⟩ (hseen uid)

/-- A new incarnation is noted, and then the pod's owner decides which deployments are
invalidated. -/
theorem run_onPod_of_new {pod : Pod} {m : AddressMemory} {uid : String} (hnew : IsNew m pod uid) :
    (onPod pod).run m = podOwner pod.metadata.key >>= fun owner =>
      match owner with
      | none => pure (0, sighted pod.metadata.key uid m)
      | some o => (invalidate pod.metadata.key.ns (clusterOfStatefulSet o.statefulSet)
          m.deployments.entries).run (sighted pod.metadata.key uid m) := by
  obtain ⟨hready, huid⟩ : pod.isReady = true ∧ pod.metadata.uid = some uid := by
    simpa [incarnation?] using hnew.1
  unfold onPod
  simp only [hready, huid, hnew.2, StateT.run_bind, StateT.run_get, StateT.run_set, StateT.run_lift,
    bind_assoc, pure_bind, if_false]
  refine congrArg (podOwner pod.metadata.key >>= ·) (funext fun owner => ?_)
  cases owner <;> rfl

/-- The deployments on the cluster of a pod's owner. -/
def onCluster (m : AddressMemory) (pod : Pod) (o : PodOwner) : List (ObjectKey × Deployment) :=
  m.deployments.entries.filter fun e =>
    targets pod.metadata.key.ns (clusterOfStatefulSet o.statefulSet) e.1 e.2

/-- How an observation of a pod went: what it asked, and what is remembered. The pod was passed
over; or it was noted, and no owner was found; or it was noted, and deployments on the owner's
cluster were invalidated, all of them where someone listens. -/
inductive Noticed (h : Handler surroundings σ) (pod : Pod) (m : AddressMemory) (s : σ) :
    List surroundings.Reply → AddressMemory → Prop where
  | passed (hseen : ∀ uid, ¬ IsNew m pod uid) : Noticed h pod m s [] m
  | unowned {uid : String} (hnew : IsNew m pod uid)
      (hnone : ownerIn pod.metadata.key (h (.getPod pod.metadata.key) s).1 = none) :
      Noticed h pod m s [⟨.getPod pod.metadata.key, (h (.getPod pod.metadata.key) s).1⟩]
        (sighted pod.metadata.key uid m)
  | owned {uid : String} (hnew : IsNew m pod uid) {o : PodOwner}
      (howner : ownerIn pod.metadata.key (h (.getPod pod.metadata.key) s).1 = some o)
      {asked : List (ObjectKey × Deployment)} (hstarts : asked <+: onCluster m pod o)
      {sent : List surroundings.Reply} (hsent : sent.map Sigma.fst = sends asked)
      (hall : (∀ k s, (h (.send (.address k)) s).1 = true) → asked = onCluster m pod o) :
      Noticed h pod m s (⟨.getPod pod.metadata.key, (h (.getPod pod.metadata.key) s).1⟩ :: sent)
        (asked.foldl outdated (sighted pod.metadata.key uid m))

theorem onPod_noticed (h : Handler surroundings σ) (pod : Pod) (m : AddressMemory) (s : σ) :
    Noticed h pod m s (((onPod pod).run m).transcript h s) (((onPod pod).run m).run h s).1.2 := by
  by_cases hseen : ∀ uid, ¬ IsNew m pod uid
  · rw [run_onPod_of_seen hseen]
    exact .passed hseen
  · obtain ⟨uid, hnew⟩ := Classical.not_forall_not.mp hseen
    rw [run_onPod_of_new hnew, transcript_podOwner_bind, run_podOwner_bind]
    cases howner : ownerIn pod.metadata.key (h (.getPod pod.metadata.key) s).1 with
    | none => exact .unowned hnew howner
    | some o =>
      obtain ⟨asked, hstarts, hsent, hmemory, hall⟩ := invalidate_sends h pod.metadata.key.ns
        (clusterOfStatefulSet o.statefulSet) m.deployments.entries (sighted pod.metadata.key uid m)
        (h (.getPod pod.metadata.key) s).2
      rw [hmemory]
      exact .owned hnew howner hstarts hsent hall

/-- A new incarnation of a pod whose owner is found asks for every deployment on the cluster, unless
no one listened to one of the passes. -/
theorem onPod_triggers {h : Handler surroundings σ} {pod : Pod} {m : AddressMemory} {s : σ}
    {uid : String} (hnew : IsNew m pod uid) {o : PodOwner}
    (howner : ownerIn pod.metadata.key (h (.getPod pod.metadata.key) s).1 = some o) :
    let log := ((onPod pod).run m).transcript h s
    triggered log = (onCluster m pod o).map Prod.fst ∨ ∃ k, ⟨.send (.address k), false⟩ ∈ log := by
  rw [run_onPod_of_new hnew, transcript_podOwner_bind, howner]
  obtain hall | ⟨k, hk⟩ :=
    invalidate_triggers h pod.metadata.key.ns (clusterOfStatefulSet o.statefulSet)
    m.deployments.entries (sighted pod.metadata.key uid m) (h (.getPod pod.metadata.key) s).2
  · exact .inl hall
  · exact .inr ⟨k, List.mem_cons_of_mem _ hk⟩

section Noticed

variable {h : Handler surroundings σ} {pod : Pod} {m m' : AddressMemory} {s : σ}
  {log : List surroundings.Reply}

/-- A new incarnation of a pod whose owner is found asks for every deployment on the cluster, where
someone listens. -/
theorem triggered_of_noticed (hnoticed : Noticed h pod m s log m') {uid : String}
    (hnew : IsNew m pod uid) {o : PodOwner}
    (howner : ownerIn pod.metadata.key (h (.getPod pod.metadata.key) s).1 = some o)
    (hheard : ∀ k s, (h (.send (.address k)) s).1 = true) :
    triggered log = (onCluster m pod o).map Prod.fst := by
  cases hnoticed with
  | passed hseen => exact absurd hnew (hseen uid)
  | unowned _ hnone => cases howner.symm.trans hnone
  | @owned _ _ o' howner' asked _ sent hsent hall =>
    obtain rfl : o' = o := Option.some.inj (howner'.symm.trans howner)
    have htriggered : triggered sent = asked.map Prod.fst := triggered_of_sends hsent
    rw [← hall hheard]
    exact htriggered

/-- An observed pod makes those deployments stale for which it asks for a pass. -/
theorem checksum_of_noticed (hnoticed : Noticed h pod m s log m') (k : ObjectKey) :
    m'.checksum k = if k ∈ triggered log then none else m.checksum k := by
  cases hnoticed with
  | passed => rfl
  | unowned => rfl
  | owned _ _ _ hsent =>
    rw [checksum_outdated, ← triggered_of_sends hsent]
    rfl

/-- A deployment that a pass is asked for is remembered, and so are those that were. -/
theorem contains_of_noticed (hnoticed : Noticed h pod m s log m') (k : ObjectKey) :
    m'.deployments.contains k = true ↔ k ∈ triggered log ∨ m.deployments.contains k = true := by
  cases hnoticed with
  | passed => exact (or_iff_right List.not_mem_nil).symm
  | unowned => exact (or_iff_right List.not_mem_nil).symm
  | owned _ _ _ hsent =>
    rw [contains_outdated, ← triggered_of_sends hsent]
    rfl

/-- What is asked is a look-up of the pod or a pass. -/
theorem mem_of_noticed (hnoticed : Noticed h pod m s log m') {x : surroundings.Reply}
    (hx : x ∈ log) :
    x.1 = .getPod pod.metadata.key ∨ ∃ t, x.1 = .send t := by
  cases hnoticed with
  | passed => cases hx
  | unowned => exact .inl (List.mem_singleton.mp hx ▸ rfl)
  | owned _ _ _ hsent =>
    rcases List.mem_cons.mp hx with rfl | hx
    · exact .inl rfl
    · have hsend := List.mem_map_of_mem (f := Sigma.fst) hx
      rw [hsent] at hsend
      obtain ⟨e, -, he⟩ := List.mem_map.mp hsend
      exact .inr ⟨_, he.symm⟩

end Noticed

theorem onPod_checksum (h : Handler surroundings σ) (pod : Pod) (m : AddressMemory) (s : σ)
    (k : ObjectKey) : (((onPod pod).run m).run h s).1.2.checksum k =
      if k ∈ triggered (((onPod pod).run m).transcript h s) then none else m.checksum k :=
  checksum_of_noticed (onPod_noticed h pod m s) k

end BrokerFleet.AddressLifecycle
