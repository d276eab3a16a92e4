import BrokerFleet.Proofs.Cluster.Readiness

/-! # What is inherited from an earlier status

An earlier status shows in a projected one by more than times. Its conditions of the three stated
types keep their places, and `Ready` names what does not hold in that order; and of a type that it
holds more than once, all but the first are kept as they were. Nothing else of it shows. -/

namespace BrokerFleet.Condition

variable {c d c' d' : Condition} {cs : List Condition} {now now' : String}

theorem sameAs_congr (hc : c.untimed = c'.untimed) (hd : d.untimed = d'.untimed) :
    c.sameAs d = c'.sameAs d' := by
  change c.untimed.sameAs d.untimed = c'.untimed.sameAs d'.untimed
  rw [hc, hd]

@[simp] theorem sameAs_self (c : Condition) : c.sameAs c = true := by simp [sameAs]

/-- The condition `Ready` where the conditions of some types do not hold. -/
def announced (now : String) : List String → Condition
  | [] => stated now ready .yes .ready ""
  | missing => stated now ready .no .notReady ("not ready: " ++ ", ".intercalate missing)

/-- What is not met, told by the types in their order and by which of them hold. -/
theorem unmet_eq_filter {holds : String → Bool}
    (h : ∀ c ∈ cs, c.type ≠ ready → c.isTrue = holds c.type) :
    unmet cs = ((cs.map type).filter (· != ready)).filter fun t => !holds t := by
  rw [List.filter_filter, List.filter_map, unmet]
  refine congrArg (List.map type) (List.filter_congr fun c hc => ?_)
  by_cases htype : c.type = ready
  · simp [htype]
  · simp [h c hc htype, Bool.and_comm]

end BrokerFleet.Condition

namespace BrokerFleet.Projection

open Condition

variable {now now' : String} {generation : Int64} {p q : Option ClusterStatus} {v d d' : Condition}
  {t : String}

/-! ## The order of types -/

/-- The conditions that an earlier status hands on are of different types. -/
def Distinct (previous : Option ClusterStatus) : Prop := ((kept previous).map type).Nodup

instance (previous : Option ClusterStatus) : Decidable (Distinct previous) :=
  inferInstanceAs (Decidable (List.Nodup _))

/-- Of the conditions but `Ready` that an earlier status hands on, one of type `Deployed` comes
first. -/
def deployedFirst (previous : Option ClusterStatus) : Bool :=
  ((kept previous).map type).find? (· != ready) == some Condition.deployed

/-- The types of the conditions but `Ready`, in the order in which they are projected. -/
def order (previous : Option ClusterStatus) : List String :=
  if deployedFirst previous then [Condition.deployed, valid] else [valid, Condition.deployed]

/-- Types with one more, unless it is there. -/
def withType (t : String) (types : List String) : List String :=
  if t ∈ types then types else types ++ [t]

theorem sublist_withType (t : String) (types : List String) : types.Sublist (withType t types) := by
  unfold withType
  split
  · exact .refl _
  · exact List.sublist_append_left _ _

theorem filter_withType (ht : t ≠ ready) (types : List String) :
    (withType t types).filter (· != ready) = withType t (types.filter (· != ready)) := by
  by_cases hmem : t ∈ types <;> simp [withType, hmem, ht]

theorem filter_withType_ready (types : List String) :
    (withType ready types).filter (· != ready) = types.filter (· != ready) := by
  by_cases hmem : ready ∈ types <;> simp [withType, hmem]

theorem withType_withType {types : List String} (hnodup : types.Nodup)
    (htypes : ∀ t ∈ types, t = valid ∨ t = Condition.deployed) :
    withType Condition.deployed (withType valid types) =
      if types.head? == some Condition.deployed then [Condition.deployed, valid]
      else [valid, Condition.deployed] := by
  -- there is no third type for a third condition
  match types, hnodup, htypes with
  | [], _, _ => decide
  | [t], _, htypes =>
    obtain rfl | rfl := htypes t (by simp) <;> decide
  | [t, u], hnodup, htypes =>
    obtain rfl | rfl := htypes t (by simp) <;> obtain rfl | rfl := htypes u (by simp) <;>
      first | decide | simp at hnodup
  | t :: u :: w :: rest, hnodup, htypes =>
    obtain rfl | rfl := htypes t (by simp) <;> obtain rfl | rfl := htypes u (by simp) <;>
      obtain rfl | rfl := htypes w (by simp) <;> simp at hnodup

section Types

variable (hv : v.type = valid) (hd : d.type = Condition.deployed)

include hv hd

theorem types_conditions (now : String) (generation : Int64) (previous : Option ClusterStatus) :
    (conditions now generation previous v d).map type =
      withType ready (withType Condition.deployed (withType valid ((kept previous).map type))) := by
  have hinstall (c : Condition) (cs : List Condition) :
      (c.install cs).map type = withType c.type (cs.map type) := map_type_install c cs
  have hready : (observed generation (aggregate now (underlying generation previous v d))).type =
      ready :=
    type_aggregate _ _
  rw [conditions_eq, hinstall, hready, underlying, hinstall, hinstall, ← hv, ← hd]
  rfl

theorem filter_types_conditions (hp : Distinct p) (now : String) (generation : Int64) :
    ((conditions now generation p v d).map type).filter (· != ready) = order p := by
  have htypes : ∀ t ∈ ((kept p).map type).filter (· != ready),
      t = valid ∨ t = Condition.deployed := by
    intro t ht
    obtain ⟨hkept, hne⟩ := List.mem_filter.mp ht
    obtain ⟨c, hc, rfl⟩ := List.mem_map.mp hkept
    obtain ⟨s, -, -, hstated⟩ := mem_kept.mp hc
    simp only [statedTypes, List.mem_cons, List.not_mem_nil, or_false] at hstated
    have hne : c.type ≠ ready := by simpa using hne
    tauto
  rw [types_conditions hv hd, filter_withType_ready, filter_withType (by decide),
    filter_withType (by decide), withType_withType (hp.filter _) htypes, List.head?_filter]
  rfl

/-- A projected status has three conditions exactly if the earlier one handed on no two of a
type. -/
theorem length_conditions_eq_three_iff (now : String) (generation : Int64)
    (previous : Option ClusterStatus) :
    (conditions now generation previous v d).length = 3 ↔ Distinct previous := by
  rw [← List.length_map (f := type)]
  constructor
  · intro hlength
    have hsubset : statedTypes ⊆ (conditions now generation previous v d).map type :=
      fun t ht => (mem_types_conditions hv hd now generation previous).mpr ht
    have hperm := (List.subperm_of_subset (by decide) hsubset).perm_of_length_le
      (Nat.le_of_eq (by rw [hlength]; rfl))
    have hnodup := hperm.nodup_iff.mp (by decide)
    rw [types_conditions hv hd] at hnodup
    exact hnodup.sublist ((sublist_withType _ _).trans
      ((sublist_withType _ _).trans (sublist_withType _ _)))
  · intro hdistinct
    have hnodup := nodup_types_of_kept hdistinct now generation v d
    rw [(perm_types_of_nodup hv hd hnodup).length_eq]
    rfl

/-- What is not met is told by the order of the types. -/
theorem unmet_conditions_eq (hp : Distinct p) (now : String) (generation : Int64) :
    unmet (conditions now generation p v d) =
      (order p).filter fun t => !if t = valid then v.isTrue else d.isTrue := by
  have hnodup := nodup_types_of_kept hp now generation v d
  rw [← filter_types_conditions hv hd hp now generation]
  refine unmet_eq_filter fun c hc hne => ?_
  obtain hstated | hstated | hstated := untimed_of_mem_conditions hv hd hnodup hc
  · rw [type_of_untimed hstated, isTrue_of_untimed hstated, if_pos (by exact hv)]
    rfl
  · have htype : d.type ≠ valid := by rw [hd]; decide
    rw [type_of_untimed hstated, isTrue_of_untimed hstated, if_neg (by exact htype)]
    rfl
  · exact absurd ((type_of_untimed hstated).trans (type_aggregate _ _)) hne

/-! ## Two earlier statuses -/

theorem sameAs_announced (generation : Int64) (now now' : String) (hp : Distinct p)
    (hq : Distinct q) :
    (announced now (unmet (conditions now generation p v d))).sameAs
      (announced now' (unmet (conditions now' generation q v d))) = true ↔
      v.isTrue = true ∨ d.isTrue = true ∨ deployedFirst p = deployedFirst q := by
  have htimes (missing missing' : List String) :
      (announced now missing).sameAs (announced now' missing') =
        (announced "" missing).sameAs (announced "" missing') := by
    cases missing <;> cases missing' <;> rfl
  rw [htimes, unmet_conditions_eq hv hd hp, unmet_conditions_eq hv hd hq, order, order]
  generalize v.isTrue = holds, d.isTrue = holds', deployedFirst p = first, deployedFirst q = first'
  revert holds holds' first first'
  decide

theorem allSame_conditions_of_distinct (now now' : String) (hp : Distinct p) (hq : Distinct q) :
    allSame (conditions now generation p v d) (conditions now' generation q v d) = true ↔
      v.isTrue = true ∨ d.isTrue = true ∨ deployedFirst p = deployedFirst q := by
  have hnodup := nodup_types_of_kept hp now generation v d
  have hlength := (length_conditions_eq_three_iff hv hd now generation p).mpr hp
  have hlength' := (length_conditions_eq_three_iff hv hd now' generation q).mpr hq
  obtain ⟨e, he, hev⟩ := find?_valid hv hd now' generation q
  obtain ⟨e', he', hed⟩ := find?_deployed hd now' generation q (v := v)
  obtain ⟨e'', he'', her⟩ := find?_ready now' generation q v d
  have hready : ∀ r : Condition, r.untimed =
      (observed generation (aggregate now (underlying generation p v d))).untimed →
      (r.sameAs e'' = true ↔ v.isTrue = true ∨ d.isTrue = true ∨
        deployedFirst p = deployedFirst q) := by
    intro r hr
    rw [sameAs_congr hr her, ← sameAs_announced hv hd generation now now' hp hq,
      unmet_conditions, unmet_conditions]
    rfl
  rw [allSame, hlength, hlength', beq_self_eq_true, Bool.true_and, List.all_eq_true]
  constructor
  · intro hall
    obtain ⟨r, hr, hruntimed⟩ := find?_ready now generation p v d
    obtain ⟨hmem, htype⟩ := of_find?_eq_some hr
    have hsame := hall r hmem
    rw [htype, he'', Option.elim_some] at hsame
    exact (hready r hruntimed).mp hsame
  · intro hshown c hc
    obtain hstated | hstated | hstated := untimed_of_mem_conditions hv hd hnodup hc
    · have htype : c.type = valid := (type_of_untimed hstated).trans hv
      rw [htype, he, Option.elim_some, sameAs_congr hstated hev, sameAs_self]
    · have htype : c.type = Condition.deployed := (type_of_untimed hstated).trans hd
      rw [htype, he', Option.elim_some, sameAs_congr hstated hed, sameAs_self]
    · have htype : c.type = ready := (type_of_untimed hstated).trans (type_aggregate _ _)
      rw [htype, he'', Option.elim_some]
      exact (hready c hstated).mpr hshown

theorem distinct_iff_of_allSame {now now' : String}
    (hsame : allSame (conditions now generation p v d) (conditions now' generation q v d) = true) :
    Distinct p ↔ Distinct q := by
  rw [allSame, Bool.and_eq_true, beq_iff_eq] at hsame
  rw [← length_conditions_eq_three_iff hv hd now generation p,
    ← length_conditions_eq_three_iff hv hd now' generation q, hsame.1]

end Types

/-- Statuses that are projected alike, but for time and for the earlier status, differ in nothing
but the conditions. -/
theorem same_project (now now' : String) (c : Cluster) (p q : Option ClusterStatus) (v : Condition)
    (error : Option String) (o : Observed) :
    (project now c p v error o).same (project now' c q v error o) =
      allSame (project now c p v error o).conditions (project now' c q v error o).conditions := by
  simp [ClusterStatus.same, project]

theorem same_project_iff (hv : v.type = valid) (now now' : String) (c : Cluster)
    (error : Option String) (o : Observed) (hone : Distinct p ∨ Distinct q) :
    (project now c p v error o).same (project now' c q v error o) = true ↔
      Distinct p ∧ Distinct q ∧
      (v.isTrue = true ∨ reportsDeployed (project now c p v error o) = true ∨
        deployedFirst p = deployedFirst q) := by
  let size := c.spec.deploymentPlan.size
  let pods := summarize (ClusterNames.ofCluster c) size o.pods
  have hd : (deployed now size pods error).type = Condition.deployed := type_deployed ..
  have hconditions : (project now' c q v error o).conditions.map untimed =
      (conditions now' c.generation q v (deployed now size pods error)).map untimed :=
    map_untimed_conditions rfl (untimed_deployed ..) now' now' c.generation q
  rw [same_project, allSame_congr _ hconditions, reportsDeployed_project_eq]
  change allSame (conditions now c.generation p v (deployed now size pods error)) _ = true ↔ _
  constructor
  · intro hsame
    have hiff := distinct_iff_of_allSame hv hd hsame
    have hp : Distinct p := hone.elim id hiff.mpr
    exact ⟨hp, hiff.mp hp, (allSame_conditions_of_distinct hv hd now now' hp (hiff.mp hp)).mp hsame⟩
  · rintro ⟨hp, hq, hshown⟩
    exact (allSame_conditions_of_distinct hv hd now now' hp hq).mpr hshown

/-- What two earlier statuses make of one projection. All but the conditions, and what is found of
the conditions `Valid` and `Deployed`, is the same, times apart. If at least one of the two hands on
no two conditions of a type, the whole is the same exactly if neither does, and they agree on which
of `Valid` and `Deployed` comes first or one of the two conditions holds: only where both are
missing does `Ready` show their order. -/
theorem earlier_status_shows_iff (hv : v.type = valid) (now now' : String) (c : Cluster)
    (error : Option String) (o : Observed) (p q : Option ClusterStatus) :
    let s := project now c p v error o
    let t := project now' c q v error o
    { s with conditions := [] } = { t with conditions := [] } ∧
    (∀ type ∈ [valid, Condition.deployed], ∃ a b, find? type s.conditions = some a ∧
      find? type t.conditions = some b ∧ a.untimed = b.untimed) ∧
    (Distinct p ∨ Distinct q → (s.same t = true ↔ Distinct p ∧ Distinct q ∧
      (v.isTrue = true ∨ reportsDeployed s = true ∨ deployedFirst p = deployedFirst q))) := by
  intro s t
  let size := c.spec.deploymentPlan.size
  let pods := summarize (ClusterNames.ofCluster c) size o.pods
  have hd (now : String) : (deployed now size pods error).type = Condition.deployed :=
    type_deployed ..
  refine ⟨rfl, ?_, same_project_iff hv now now' c error o⟩
  simp only [List.forall_mem_cons, List.not_mem_nil, false_implies, implies_true, and_true]
  obtain ⟨a, ha, hav⟩ := find?_valid hv (hd now) now c.generation p
  obtain ⟨b, hb, hbv⟩ := find?_valid hv (hd now') now' c.generation q
  obtain ⟨a', ha', had⟩ := find?_deployed (hd now) now c.generation p (v := v)
  obtain ⟨b', hb', hbd⟩ := find?_deployed (hd now') now' c.generation q (v := v)
  have hdeployed : a'.untimed = b'.untimed := by
    rw [had, hbd]
    exact congrArg (observed c.generation) (untimed_deployed now now' size pods error)
  exact ⟨⟨a, b, ha, hb, hav.trans hbv.symm⟩, a', b', ha', hb', hdeployed⟩

/-! ## An earlier status in another order -/

def invalid : Condition := stated "" valid .no .specInvalid "size: must not be negative"

/-- A status whose condition `Deployed` comes before its condition `Valid`. -/
def reversed : ClusterStatus where
  conditions := [stated "" Condition.deployed .no .podsNotReady "0/2 pods ready", invalid]

/-- The order of the earlier conditions does not show once all replicas run, although the
declaration is invalid. -/
theorem earlier_status_shows_iff_inPlace :
    let o : Observed := { pods := [readyPod "broker-ss-0", readyPod "broker-ss-1"] }
    let s := project "" twoReplicas (some reversed) invalid none o
    invalid.type = valid ∧ invalid.isTrue = false ∧ Distinct (some reversed) ∧
      reportsDeployed s = true ∧ s.same (project "" twoReplicas none invalid none o) = true := by
  intro o s
  have hreported : reportsDeployed s = true :=
    reportsDeployed_project.mpr ⟨rfl, by decide, by decide⟩
  obtain ⟨-, -, hsame⟩ := earlier_status_shows_iff (v := invalid) rfl "" "" twoReplicas none o
    (some reversed) none
  exact ⟨rfl, rfl, by decide, hreported,
    (hsame (.inr (by decide))).mpr ⟨by decide, by decide, .inr (.inl hreported)⟩⟩

/-- Two earlier statuses, none and one in another order, and two projections that are not the
same. -/
theorem order_of_earlier_conditions_shows :
    Distinct (some reversed) ∧ Distinct none ∧
      (project "" twoReplicas (some reversed) invalid none {}).same
        (project "" twoReplicas none invalid none {}) = false := by
  refine ⟨by decide, by decide, Bool.eq_false_iff.mpr fun hsame => ?_⟩
  obtain ⟨-, -, hvalid | hreported | horder⟩ :=
    (same_project_iff (v := invalid) rfl "" "" twoReplicas none {} (.inr (by decide))).mp hsame
  · exact absurd hvalid (by decide)
  · obtain ⟨-, -, hsize⟩ := reportsDeployed_project.mp hreported
    exact absurd hsize (by decide)
  · exact absurd horder (by decide)

end BrokerFleet.Projection
