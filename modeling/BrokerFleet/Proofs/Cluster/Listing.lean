import BrokerFleet.Proofs.Cluster.Inheritance
import BrokerFleet.Proofs.Cluster.Inspection
import BrokerFleet.Proofs.Text.Sorting

/-! # The order of listings

Pods are listed in any order, and so are the mounted objects of a declaration. A status shows
neither order: what it lists is sorted, and mounted objects of one name keep the order of their
kinds. Whether two statuses are found to be the same is another question, if an earlier status held
a type of conditions more than once. -/

namespace BrokerFleet

namespace Condition

variable {c d e : Condition} {cs : List Condition}

theorem sameAs_of_sameAs (hc : c.sameAs e = true) (hd : d.sameAs e = true) : c.sameAs d = true := by
  rw [sameAs_iff_content] at hc hd ⊢
  exact hc.trans hd.symm

/-- Conditions of a type agree. -/
def Consistent (cs : List Condition) : Prop :=
  ∀ c ∈ cs, ∀ d ∈ cs, c.type = d.type → c.sameAs d = true

theorem consistent_of_nodup (hnodup : (cs.map type).Nodup) : Consistent cs := by
  intro c hc d hd htype
  rw [List.inj_on_of_nodup_map hnodup hc hd htype, sameAs_self]

/-- A list is the same as itself exactly if its conditions of a type agree. -/
theorem allSame_self_iff : allSame cs cs = true ↔ Consistent cs := by
  rw [allSame, beq_self_eq_true, Bool.true_and, List.all_eq_true]
  constructor
  · intro hall c hc d hd htype
    have hcfound := hall c hc
    have hdfound := hall d hd
    rw [← htype] at hdfound
    cases hfind : find? c.type cs with
    | none => simp [hfind] at hcfound
    | some e =>
      rw [hfind] at hcfound hdfound
      exact sameAs_of_sameAs hcfound hdfound
  · intro hconsistent c hc
    cases hfind : find? c.type cs with
    | none =>
      refine absurd (List.find?_eq_none.mp hfind c hc) ?_
      simp
    | some e =>
      obtain ⟨he, htype⟩ := of_find?_eq_some hfind
      exact hconsistent c hc e he htype.symm

end Condition

namespace Projection

variable {σ σ' : Type} {h : Handler surroundings σ} {h' : Handler surroundings σ'} {Q : σ → Prop}
  {Q' : σ' → Prop} {ns selector : String}

/-! ## What there is to see -/

/-- What is answered to the one who looks at a cluster. -/
structure Scene where
  pods : Except Failure (List Pod)
  configMap : String → Except Failure (Option ConfigMap)
  secret : String → Except Failure (Option Secret)

namespace Scene

/-- A store answers so, in all states that reading leads to. -/
structure ShownBy (w : Scene) (h : Handler surroundings σ) (Q : σ → Prop) (ns selector : String) :
    Prop where
  pods : Task.Answers h Q (Task.listPods ns selector) w.pods
  configMap : ∀ name, Task.Answers h Q (Task.getConfigMap ⟨ns, name⟩) (w.configMap name)
  secret : ∀ name, Task.Answers h Q (Task.getSecret ⟨ns, name⟩) (w.secret name)

/-- A store that answers so in every namespace, and answers nothing else. -/
def store (w : Scene) : Handler surroundings Unit
  | .listPods _ _, s => (w.pods, s)
  | .getConfigMap key, s => (w.configMap key.name, s)
  | .getSecret key, s => (w.secret key.name, s)
  | r, s => (r.refusal, s)

theorem shownBy_store (w : Scene) (ns selector : String) :
    w.ShownBy w.store (fun _ => True) ns selector where
  pods _ _ := ⟨rfl, trivial⟩
  configMap _ _ _ := ⟨rfl, trivial⟩
  secret _ _ _ := ⟨rfl, trivial⟩

def mountedMap (w : Scene) (name : String) : Except Failure (Option ExternalConfig) := do
  pure (externalConfig name ((← w.configMap name).map (·.metadata)))

def mountedSecret (w : Scene) (name : String) : Except Failure (Option ExternalConfig) := do
  pure (externalConfig name ((← w.secret name).map (·.metadata)))

def observed (w : Scene) (mounts : ExtraMounts) : Except Failure Observed := do
  let pods ← w.pods
  let maps ← mounts.configMaps.mapM w.mountedMap
  let secrets ← mounts.secrets.mapM w.mountedSecret
  pure { pods, externalConfigs := (maps ++ secrets).filterMap id }

theorem ShownBy.answers_observe {w : Scene} {c : Cluster}
    (hw : w.ShownBy h Q c.ns (ClusterNames.ofCluster c).selector) :
    Task.Answers h Q (observe c) (w.observed c.spec.deploymentPlan.extraMounts) := by
  refine hw.pods.bind fun pods => ?_
  refine (Task.Answers.mapM (fun name => (hw.configMap name).bind fun _ => .pure _) _).bind
    fun maps => ?_
  exact (Task.Answers.mapM (fun name => (hw.secret name).bind fun _ => .pure _) _).bind
    fun _ => .pure _

/-! ## Readings in turn -/

/-- What a reading comes to, nothing if it fails. -/
def seen (g : String → Except Failure (Option ExternalConfig)) (name : String) :
    Option ExternalConfig :=
  (g name).toOption.join

/-- Readings in turn fail if one of them fails, and else come to what each comes to. -/
theorem mapM_cases (g : String → Except Failure (Option ExternalConfig)) (l : List String) :
    (∃ name ∈ l, ∃ e, g name = .error e) ∧ (∃ e, l.mapM g = .error e) ∨
      (∀ name ∈ l, ∃ found, g name = .ok found) ∧ l.mapM g = .ok (l.map (seen g)) := by
  induction l with
  | nil => exact .inr ⟨nofun, rfl⟩
  | cons name rest ih =>
    rw [List.mapM_cons]
    -- a failure ends the readings with what failed first, so another order may end with another
    -- failure
    cases hname : g name with
    | error e => exact .inl ⟨⟨name, List.mem_cons_self, e, hname⟩, e, rfl⟩
    | ok found =>
      obtain ⟨⟨other, hother, hfailed⟩, e, he⟩ | ⟨hall, hrest⟩ := ih
      · exact .inl ⟨⟨other, List.mem_cons_of_mem _ hother, hfailed⟩, e, by rw [he]; rfl⟩
      · refine .inr ⟨List.forall_mem_cons.mpr ⟨⟨found, hname⟩, hall⟩, ?_⟩
        have hseen : seen g name = found := by rw [seen, hname]; rfl
        rw [hrest, List.map_cons, hseen]
        rfl

theorem mapM_of_perm (g : String → Except Failure (Option ExternalConfig)) {l l' : List String}
    (h : l.Perm l') :
    (∃ e e', l.mapM g = .error e ∧ l'.mapM g = .error e') ∨
      l.mapM g = .ok (l.map (seen g)) ∧ l'.mapM g = .ok (l'.map (seen g)) := by
  obtain ⟨⟨name, hname, e, hfailed⟩, e', he'⟩ | ⟨hall, hok⟩ := mapM_cases g l
  · obtain ⟨-, e'', he''⟩ | ⟨hall, -⟩ := mapM_cases g l'
    · exact .inl ⟨e', e'', he', he''⟩
    · obtain ⟨found, hfound⟩ := hall name (h.mem_iff.mp hname)
      exact nomatch hfailed.symm.trans hfound
  · obtain ⟨⟨name, hname, e, hfailed⟩, -⟩ | ⟨-, hok'⟩ := mapM_cases g l'
    · obtain ⟨found, hfound⟩ := hall name (h.mem_iff.mpr hname)
      exact nomatch hfailed.symm.trans hfound
    · exact .inr ⟨hok, hok'⟩

/-- What a reading finds has the name that it looks for. -/
def Named (g : String → Except Failure (Option ExternalConfig)) : Prop :=
  ∀ name e, seen g name = some e → e.name = name

theorem named_of_answer {α : Type} (answer : String → Except Failure α)
    (metadata : α → Option Metadata) :
    Named fun name => answer name >>= fun found => pure (externalConfig name (metadata found)) := by
  intro name e he
  dsimp only [seen] at he
  cases hanswer : answer name with
  | error _ =>
    rw [hanswer] at he
    cases he
  | ok found =>
    rw [hanswer] at he
    change externalConfig name (metadata found) = some e at he
    obtain ⟨m, -, rfl⟩ := Option.map_eq_some_iff.mp he
    rfl

theorem named_mountedMap (w : Scene) : Named w.mountedMap :=
  named_of_answer w.configMap (Option.map ConfigMap.metadata)

theorem named_mountedSecret (w : Scene) : Named w.mountedSecret :=
  named_of_answer w.secret (Option.map Secret.metadata)

/-- Of what is seen, the order of the readings shows under no name. -/
theorem under_seen_of_perm {g : String → Except Failure (Option ExternalConfig)} (hg : Named g)
    {l l' : List String} (h : l.Perm l') (k : String) :
    Text.under ExternalConfig.name k ((l.map (seen g)).filterMap id) =
      Text.under ExternalConfig.name k ((l'.map (seen g)).filterMap id) := by
  -- under a name stands what a reading of it finds, as often as it is read
  have hcount (l : List String) : Text.under ExternalConfig.name k ((l.map (seen g)).filterMap id) =
      (List.replicate (l.count k) k).filterMap (seen g) := by
    rw [Text.under, List.filterMap_map, Function.id_comp, List.filter_filterMap, ← List.filter_eq,
      List.filterMap_filter]
    refine List.filterMap_congr fun name _ => ?_
    cases hseen : seen g name with
    | none => simp
    | some e => simp [Option.filter, hg name e hseen]
  rw [hcount, hcount, h.count_eq]

/-! ## Other orders -/

/-- An answer in another order. -/
inductive Relisted {α : Type} : Except Failure (List α) → Except Failure (List α) → Prop where
  | failed (e : Failure) : Relisted (.error e) (.error e)
  | listed {l l' : List α} (h : l.Perm l') : Relisted (.ok l) (.ok l')

/-- The pods of another scene, in another order. -/
structure Rearranged (w w' : Scene) : Prop where
  pods : Relisted w.pods w'.pods
  configMap : w'.configMap = w.configMap
  secret : w'.secret = w.secret

/-- The mounts of another declaration, each kind in another order. -/
structure Reordered (mounts mounts' : ExtraMounts) : Prop where
  configMaps : mounts.configMaps.Perm mounts'.configMaps
  secrets : mounts.secrets.Perm mounts'.secrets

/-- The same pods are observed, and the same under each name of a mounted object. -/
structure Alike (o o' : Observed) : Prop where
  pods : o.pods.Perm o'.pods
  external : ∀ k, Text.under ExternalConfig.name k o.externalConfigs =
    Text.under ExternalConfig.name k o'.externalConfigs

variable {w w' : Scene} {mounts mounts' : ExtraMounts}

/-- In another order the same is observed, or as little. -/
theorem observed_rearranged (hw : Rearranged w w') (hmounts : Reordered mounts mounts') :
    (∃ e e', w.observed mounts = .error e ∧ w'.observed mounts' = .error e') ∨
      ∃ o o', w.observed mounts = .ok o ∧ w'.observed mounts' = .ok o' ∧ Alike o o' := by
  have hmaps : w'.mountedMap = w.mountedMap := by
    funext name
    rw [mountedMap, mountedMap, hw.configMap]
  have hsecrets : w'.mountedSecret = w.mountedSecret := by
    funext name
    rw [mountedSecret, mountedSecret, hw.secret]
  unfold observed
  rw [hmaps, hsecrets]
  have hpods := hw.pods
  generalize w.pods = pods, w'.pods = pods' at hpods
  cases hpods with
  | failed e => exact .inl ⟨e, e, rfl, rfl⟩
  | listed hpods =>
    obtain ⟨e, e', he, he'⟩ | ⟨hok, hok'⟩ := mapM_of_perm w.mountedMap hmounts.configMaps
    · exact .inl ⟨e, e', by rw [he]; rfl, by rw [he']; rfl⟩
    · rw [hok, hok']
      obtain ⟨e, e', he, he'⟩ | ⟨hok, hok'⟩ := mapM_of_perm w.mountedSecret hmounts.secrets
      · exact .inl ⟨e, e', by rw [he]; rfl, by rw [he']; rfl⟩
      · rw [hok, hok']
        refine .inr ⟨_, _, rfl, rfl, hpods, fun k => ?_⟩
        rw [List.filterMap_append, List.filterMap_append, Text.under_append, Text.under_append,
          under_seen_of_perm (named_mountedMap w) hmounts.configMaps,
          under_seen_of_perm (named_mountedSecret w) hmounts.secrets]

end Scene

/-! ## What is projected -/

section Project

open Condition

variable {o o' : Observed}

theorem summarize_of_perm (names : ClusterNames) (size : Int32) {pods pods' : List Pod}
    (h : pods.Perm pods') :
    summarize names size pods = summarize names size pods' := by
  have hseen (i : ℕ) := (h.filterMap (ordinal? names)).contains_eq (a := i)
  have hready := Text.sorted_eq_of_perm ((h.filter Pod.isReady).map (·.metadata.anyName))
  have hstarting := Text.sorted_eq_of_perm ((h.filter fun p => !p.isReady).map (·.metadata.anyName))
  unfold ordinal? at hseen
  simp only [summarize, hseen, hready, hstarting]

/-- A cluster that mounts other objects. -/
def remounted (c : Cluster) (mounts : ExtraMounts) : Cluster :=
  { c with spec := { c.spec with deploymentPlan :=
    { c.spec.deploymentPlan with extraMounts := mounts } } }

/-- A status does not show in what order things were observed, nor what was to be mounted. -/
theorem project_of_alike (h : Scene.Alike o o') (now : String) (c : Cluster) (mounts : ExtraMounts)
    (previous : Option ClusterStatus) (v : Condition) (error : Option String) :
    project now (remounted c mounts) previous v error o' = project now c previous v error o := by
  have hpods := summarize_of_perm (ClusterNames.ofCluster c) c.spec.deploymentPlan.size h.pods
  have hexternal : (o.externalConfigs.mergeSort fun a b => decide (a.name ≤ b.name)) =
      o'.externalConfigs.mergeSort fun a b => decide (a.name ≤ b.name) :=
    Text.sortedBy_eq_of_under_eq h.external
  change project now c previous v error o' = _
  simp only [project, hpods, hexternal]

/-- A status is found to be the same as one that is projected alike, but for time, exactly if its
conditions of a type agree. -/
theorem same_project_self_iff (now now' : String) (c : Cluster) (previous : Option ClusterStatus)
    (v : Condition) (error : Option String) (o : Observed) :
    (project now c previous v error o).same (project now' c previous v error o) = true ↔
      Consistent (project now c previous v error o).conditions := by
  let pods := summarize (ClusterNames.ofCluster c) c.spec.deploymentPlan.size o.pods
  have hconditions : (project now' c previous v error o).conditions.map untimed =
      (project now c previous v error o).conditions.map untimed :=
    map_untimed_conditions rfl (untimed_deployed now' now c.spec.deploymentPlan.size pods error) ..
  rw [same_project, allSame_congr _ hconditions, allSame_self_iff]

theorem consistent_project {previous : Option ClusterStatus} (h : Distinct previous) (now : String)
    (c : Cluster) (v : Condition) (error : Option String) (o : Observed) :
    Consistent (project now c previous v error o).conditions :=
  consistent_of_nodup (nodup_types_of_kept h now c.generation v _)

/-- What the order of listings makes of a pass. Observing fails in both orders or in none. What is
observed is projected to one status, from any earlier status and at any one time. Projected at two
times, the statuses are found to be the same exactly if their conditions of a type agree, as they do
unless the earlier status handed on two conditions of a type. -/
theorem listing_order_hidden {w w' : Scene} (hw : Scene.Rearranged w w') {c : Cluster}
    {mounts : ExtraMounts} (hmounts : Scene.Reordered c.spec.deploymentPlan.extraMounts mounts)
    (hshown : w.ShownBy h Q c.ns (ClusterNames.ofCluster c).selector)
    (hshown' : w'.ShownBy h' Q' c.ns (ClusterNames.ofCluster c).selector) (s : σ) (s' : σ')
    (hs : Q s) (hs' : Q' s') :
    let c' := remounted c mounts
    (∃ e e', Task.outcome h (observe c) s = .error e ∧
      Task.outcome h' (observe c') s' = .error e') ∨
      ∃ o o', Task.outcome h (observe c) s = .ok o ∧ Task.outcome h' (observe c') s' = .ok o' ∧
        ∀ now now' previous v error,
          project now c' previous v error o' = project now c previous v error o ∧
          ((project now c previous v error o).same (project now' c' previous v error o') = true ↔
            Consistent (project now c previous v error o).conditions) ∧
          (Distinct previous → Consistent (project now c previous v error o).conditions) := by
  intro c'
  obtain ⟨hobserved, -⟩ := hshown.answers_observe s hs
  obtain ⟨hobserved', -⟩ := (Scene.ShownBy.answers_observe (c := c') hshown') s' hs'
  rw [hobserved, hobserved']
  obtain ⟨e, e', he, he'⟩ | ⟨o, o', ho, ho', halike⟩ := Scene.observed_rearranged hw hmounts
  · exact .inl ⟨e, e', he, he'⟩
  · refine .inr ⟨o, o', ho, ho', fun now now' previous v error => ?_⟩
    rw [project_of_alike halike, project_of_alike halike]
    exact ⟨rfl, same_project_self_iff now now' c previous v error o,
      fun hdistinct => consistent_project hdistinct now c v error o⟩

/-! ## Two pods, listed in two orders -/

/-- A namespace with these pods, where each config map and each secret exists. -/
def furnished (pods : List Pod) : Scene where
  pods := .ok pods
  configMap name := .ok (some { metadata := { name := some name, resourceVersion := some "1" } })
  secret name := .ok (some { metadata := { name := some name, resourceVersion := some "2" } })

/-- A cluster of two replicas that mounts a config map and a secret of one name. -/
def mounting : Cluster := remounted twoReplicas { configMaps := ["a", "b"], secrets := ["a"] }

theorem rearranged_furnished {pods pods' : List Pod} (h : pods.Perm pods') :
    Scene.Rearranged (furnished pods) (furnished pods') := ⟨.listed h, rfl, rfl⟩

theorem reordered_mounting :
    Scene.Reordered mounting.spec.deploymentPlan.extraMounts
      { configMaps := ["b", "a"], secrets := ["a"] } :=
  ⟨.swap .., .refl _⟩

theorem listing_order_hidden_furnished :
    let w := furnished [readyPod "broker-ss-0", readyPod "broker-ss-1"]
    let w' := furnished [readyPod "broker-ss-1", readyPod "broker-ss-0"]
    let c' := remounted mounting { configMaps := ["b", "a"], secrets := ["a"] }
    ∃ o o', Task.outcome w.store (observe mounting) () = .ok o ∧
      Task.outcome w'.store (observe c') () = .ok o' ∧
      ∀ now now', (project now mounting none invalid none o).same
        (project now' c' none invalid none o') = true := by
  intro w w' c'
  obtain ⟨e, e', he, -⟩ | ⟨o, o', ho, ho', hall⟩ :=
    listing_order_hidden (rearranged_furnished (.swap ..)) reordered_mounting (w.shownBy_store _ _)
      (w'.shownBy_store _ _) () () trivial trivial
  · cases he
  · refine ⟨o, o', ho, ho', fun now now' => ?_⟩
    obtain ⟨-, hsame, hconsistent⟩ := hall now now' none invalid none
    exact hsame.mpr (hconsistent (by decide))

/-- A status that holds the condition `Valid` twice. -/
def repeating : ClusterStatus where
  conditions := [stated "" valid .yes .validationSucceeded "", stated "" valid .no .specInvalid ""]

/-- One status, projected from two listings, that is not found to be the same. -/
theorem repeated_condition_not_same :
    let w := furnished [readyPod "broker-ss-0", readyPod "broker-ss-1"]
    let w' := furnished [readyPod "broker-ss-1", readyPod "broker-ss-0"]
    let v := stated "" valid .yes .validationSucceeded ""
    ∃ o o', Task.outcome w.store (observe twoReplicas) () = .ok o ∧
      Task.outcome w'.store (observe twoReplicas) () = .ok o' ∧ o.pods.Perm o'.pods ∧
      (project "" twoReplicas (some repeating) v (some "") o).same
        (project "" twoReplicas (some repeating) v (some "") o') = false := by
  intro w w' v
  let o : Observed := { pods := [readyPod "broker-ss-0", readyPod "broker-ss-1"] }
  let o' : Observed := { pods := [readyPod "broker-ss-1", readyPod "broker-ss-0"] }
  have halike : Scene.Alike o o' := ⟨.swap .., fun _ => rfl⟩
  have hproject : project "" twoReplicas (some repeating) v (some "") o' =
      project "" twoReplicas (some repeating) v (some "") o :=
    project_of_alike halike "" twoReplicas {} (some repeating) v (some "")
  refine ⟨o, o', rfl, rfl, .swap .., Bool.eq_false_iff.mpr fun hsame => ?_⟩
  rw [hproject] at hsame
  have hconsistent :=
    (same_project_self_iff "" "" twoReplicas (some repeating) v (some "") o).mp hsame
  have htwo := hconsistent v (by decide) (stated "" valid .no .specInvalid "") (by decide) rfl
  exact absurd htwo (by decide)

end Project

end Projection

end BrokerFleet
