import BrokerFleet.Proofs.Address.Window

/-! # Incarnations that are used up

The incarnation in which a pod was sighted last can be read off the operations. It alone decides
whether an observed pod is looked up, and it is noted before the look-up: one that fails uses the
incarnation up, and the pod is passed over from then on until it is seen in another. -/

namespace BrokerFleet

open AddressLifecycle

variable {σ : Type} {h : Handler surroundings σ} {config : Config} {m m' : AddressMemory} {s : σ}
  {log : List surroundings.Reply}

/-! ## The last sighting -/

/-- The incarnation of a pod that was sighted last, after an operation. -/
def Operation.sighting (k : ObjectKey) (before : Option String) : Operation → Option String
  | pod p => if p.metadata.key = k then (incarnation? p).or before else before
  | apply _ | cleanup _ => before

/-- The incarnation of a pod that was sighted last, after a run. -/
def lastSighting (k : ObjectKey) (turns : List (Turn σ)) (before : Option String) : Option String :=
  turns.foldl (fun seen t => t.operation.sighting k seen) before

theorem readyPods_of_applied {outcome : Except Failure Action} {a : Address}
    (happlied : Applied h config a m log outcome m') : m'.readyPods = m.readyPods := by
  cases happlied <;> rfl

theorem readyPods_of_cleaned {outcome : Except Failure Action} {a : Address}
    (hcleaned : Cleaned a m log outcome m') : m'.readyPods = m.readyPods := by
  cases hcleaned <;> rfl

theorem get?_readyPods_sighted {p : Pod} {uid : String} (hnew : IsNew m p uid) (k : ObjectKey) :
    (sighted p.metadata.key uid m).readyPods.get? k =
      (Operation.pod p).sighting k (m.readyPods.get? k) := by
  by_cases hk : p.metadata.key = k
  · subst hk
    simp [sighted, Operation.sighting, hnew.1]
  · simp [sighted, Operation.sighting, hk, Dict.get?_insert_of_ne _ _ (Ne.symm hk)]

theorem readyPods_of_noticed {p : Pod} (hnoticed : Noticed h p m s log m') (k : ObjectKey) :
    m'.readyPods.get? k = (Operation.pod p).sighting k (m.readyPods.get? k) := by
  cases hnoticed with
  | passed hseen =>
    by_cases hk : p.metadata.key = k
    · subst hk
      -- a pod that is passed over is in no incarnation, or in the one that was seen last
      cases hready : incarnation? p with
      | none => simp [Operation.sighting, hready]
      | some uid =>
        have hget : m.readyPods.get? p.metadata.key = some uid :=
          Decidable.byContradiction fun hget => hseen uid ⟨hready, hget⟩
        simp [Operation.sighting, hready, hget]
    · simp [Operation.sighting, hk]
  | unowned hnew => exact get?_readyPods_sighted hnew k
  | owned hnew =>
    rw [readyPods_outdated]
    exact get?_readyPods_sighted hnew k

theorem readyPods_of_performed {p : Passage} (hperformed : Performed h config m s p m')
    (k : ObjectKey) :
    m'.readyPods.get? k = p.operation.sighting k (m.readyPods.get? k) := by
  cases hperformed with
  | applied happlied => rw [readyPods_of_applied happlied]; rfl
  | cleaned hcleaned => rw [readyPods_of_cleaned hcleaned]; rfl
  | noticed hnoticed => exact readyPods_of_noticed hnoticed k

theorem carryOut_sighting (turns : List (Turn σ)) (m : AddressMemory) (s : σ) (k : ObjectKey) :
    (carryOut h config turns m s).2.1.readyPods.get? k =
      lastSighting k turns (m.readyPods.get? k) := by
  induction turns generalizing m s with
  | nil => rfl
  | cons t rest ih =>
    have hfirst :=
      readyPods_of_performed (perform_performed h config t.operation m (t.meanwhile s)) k
    rw [carryOut, ih, hfirst]
    rfl

/-! ## Passing over -/

theorem perform_pod_of_seen {p : Pod} (hseen : ∀ uid, ¬ IsNew m p uid) :
    perform h config (.pod p) m s = (⟨.pod p, [], true⟩, m, s) := by
  rw [perform_pod, run_onPod_of_seen hseen]
  rfl

theorem seen_iff {p : Pod} {uid : String} (hready : incarnation? p = some uid) :
    (∀ uid, ¬ IsNew m p uid) ↔ m.readyPods.get? p.metadata.key = some uid := by
  simp [IsNew, hready]

/-- A new incarnation of which no owner is found asks for nothing more, and is noted. -/
theorem perform_pod_of_unowned {p : Pod} {uid : String} (hnew : IsNew m p uid)
    (hnone : ownerIn p.metadata.key (h (.getPod p.metadata.key) s).1 = none) :
    perform h config (.pod p) m s =
      (⟨.pod p, [⟨.getPod p.metadata.key, (h (.getPod p.metadata.key) s).1⟩], true⟩,
        sighted p.metadata.key uid m, (h (.getPod p.metadata.key) s).2) := by
  rw [perform_pod, run_onPod_of_new hnew, transcript_podOwner_bind, run_podOwner_bind, hnone]
  rfl

/-! ## A look-up that fails -/

/-- A look-up that fails uses the incarnation up: nothing is invalidated then, and whatever is done
afterwards, the pod is passed over in that incarnation. Only if it was sighted in another in
between, it is looked up again, and asks for every deployment on its cluster. -/
theorem incarnation_consumed (config : Config) {p : Pod} {uid : String} {e : Failure}
    (hnew : IsNew m p uid) (hfailed : (h (.getPod p.metadata.key) s).1 = .error e)
    (turns : List (Turn σ)) (s₁ s₂ : σ) :
    let failed := perform h config (.pod p) m s
    let later := carryOut h config turns failed.2.1 s₁
    let again := perform h config (.pod p) later.2.1 s₂
    failed.1.log = [⟨.getPod p.metadata.key, .error e⟩] ∧
      failed.2.1.deployments = m.deployments ∧
      (lastSighting p.metadata.key turns (some uid) = some uid →
        again = (⟨.pod p, [], true⟩, later.2.1, s₂)) ∧
      (lastSighting p.metadata.key turns (some uid) ≠ some uid → ∀ o,
        ownerIn p.metadata.key (h (.getPod p.metadata.key) s₂).1 = some o →
        (∀ k s, (h (.send (.address k)) s).1 = true) →
        triggered again.1.log = (onCluster later.2.1 p o).map Prod.fst) := by
  intro failed later again
  have hunowned : failed = _ := perform_pod_of_unowned hnew (by rw [hfailed]; rfl)
  have hlast : later.2.1.readyPods.get? p.metadata.key =
      lastSighting p.metadata.key turns (some uid) := by
    rw [carryOut_sighting, hunowned]
    simp [sighted]
  refine ⟨?_, ?_, ?_, ?_⟩
  · rw [hunowned, hfailed]
  · rw [hunowned]
    rfl
  · rw [← hlast, ← seen_iff hnew.1]
    exact perform_pod_of_seen
  · rw [← hlast]
    intro hother o howner hheard
    exact triggered_of_noticed (perform_noticed h config p later.2.1 s₂)
      ⟨hnew.1, hother⟩ howner hheard

/-- A fleet of one replica; the state says whether the next look-up of a pod fails. -/
def faultyLookup : Handler surroundings Bool
  | .getPod _, fails =>
    (if fails then .error (.api .unreadable) else .ok (some returningPod), false)
  | r, fails => ((oneReplica r ()).1, fails)

/-- Once the look-up of the returning pod has failed, the pod is not looked up again. -/
theorem incarnation_consumed_returningPod :
    let failed := perform faultyLookup {} (.pod returningPod) {} true
    let later := carryOut faultyLookup {} [⟨id, .apply plainAddress⟩] failed.2.1 false
    IsNew {} returningPod "u" ∧
      (faultyLookup (.getPod returningPod.metadata.key) true).1 = .error (.api .unreadable) ∧
      perform faultyLookup {} (.pod returningPod) later.2.1 false =
        (⟨.pod returningPod, [], true⟩, later.2.1, false) := by
  have hnew : IsNew {} returningPod "u" := ⟨rfl, nofun⟩
  have hfailed : (faultyLookup (.getPod returningPod.metadata.key) true).1 =
      .error (.api .unreadable) := rfl
  obtain ⟨-, -, hpassed, -⟩ :=
    incarnation_consumed {} hnew hfailed [⟨id, .apply plainAddress⟩] false false
  exact ⟨hnew, hfailed, hpassed rfl⟩

/-- An address is applied, the look-up of a pod that comes back fails, and the pod is observed once
more: its owner can be found by then and the address is on its cluster, but no pass is asked for,
and the address is still taken as applied. -/
theorem returning_pod_missed :
    let run := carryOut faultyLookup {} [⟨id, .apply plainAddress⟩,
      ⟨fun _ => true, .pod returningPod⟩, ⟨id, .pod returningPod⟩] {} false
    ownerIn returningPod.metadata.key (faultyLookup (.getPod returningPod.metadata.key) run.2.2).1 =
        some ⟨"c-ss", 0, .empty⟩ ∧
      (run.2.1.deployments.get? plainAddress.metadata.key).any
        (targets "n" (clusterOfStatefulSet "c-ss") plainAddress.metadata.key) = true ∧
      run.1.flatMap (fun p => triggered p.log) = [] ∧
      run.2.1.checksum plainAddress.metadata.key = some (versionOf plainAddress) := by
  decide +kernel

end BrokerFleet
