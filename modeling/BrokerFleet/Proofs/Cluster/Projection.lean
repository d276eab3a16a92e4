import BrokerFleet.Cluster.Projection
import BrokerFleet.Proofs.Cluster.Conditions

/-! # What a projected status says

A projected status holds the three conditions of its pass, whatever conditions the earlier status
held, and it has settled only if all three hold. The clock shows in nothing but times, and
projecting once more from what was projected changes nothing at all. -/

namespace BrokerFleet.Projection

open Condition

variable {now now' : String} {generation : Int64} {previous : Option ClusterStatus}
  {v v' d d' : Condition} {t : String}

/-- The types of the conditions that a pass states. -/
def statedTypes : List String := [valid, Condition.deployed, ready]

def observed (generation : Int64) (c : Condition) : Condition :=
  { c with observedGeneration := generation }

/-- The conditions of a status before `Ready` is stated. -/
def underlying (generation : Int64) (previous : Option ClusterStatus) (v d : Condition) :
    List Condition :=
  (observed generation d).install ((observed generation v).install (kept previous))

theorem conditions_eq (now : String) (generation : Int64) (previous : Option ClusterStatus)
    (v d : Condition) :
    conditions now generation previous v d =
      (observed generation (aggregate now (underlying generation previous v d))).install
        (underlying generation previous v d) := rfl

theorem mem_kept {c : Condition} :
    c ∈ kept previous ↔ ∃ s, previous = some s ∧ c ∈ s.conditions ∧ c.type ∈ statedTypes := by
  cases previous <;> simp [kept, statedTypes]

@[simp] theorem type_deployed (now : String) (size : Int32) (pods : PodSummary)
    (error : Option String) :
    (Projection.deployed now size pods error).type = Condition.deployed := by
  unfold Projection.deployed
  split
  · rfl
  · split <;> rfl

theorem untimed_deployed (now now' : String) (size : Int32) (pods : PodSummary)
    (error : Option String) :
    (Projection.deployed now size pods error).untimed =
      (Projection.deployed now' size pods error).untimed := by
  unfold Projection.deployed
  split
  · rfl
  · split <;> rfl

/-! ## The three conditions -/

section Three

variable (hv : v.type = valid) (hd : d.type = Condition.deployed)

include hv hd

theorem find?_valid (now : String) (generation : Int64) (previous : Option ClusterStatus) :
    ∃ e, find? valid (conditions now generation previous v d) = some e ∧
      e.untimed = (observed generation v).untimed := by
  have hne : valid ≠ (observed generation d).type := by
    simp [observed, hd, valid, Condition.deployed]
  rw [conditions_eq, find?_install_of_ne _ (by simp [observed, valid, ready]), underlying,
    find?_install_of_ne _ hne]
  exact find?_install _ hv

omit hv in
theorem find?_deployed (now : String) (generation : Int64) (previous : Option ClusterStatus) :
    ∃ e, find? Condition.deployed (conditions now generation previous v d) = some e ∧
      e.untimed = (observed generation d).untimed := by
  rw [conditions_eq, find?_install_of_ne _ (by simp [observed, Condition.deployed, ready]),
    underlying]
  exact find?_install _ hd

omit hv hd in
theorem find?_ready (now : String) (generation : Int64) (previous : Option ClusterStatus)
    (v d : Condition) :
    ∃ e, find? ready (conditions now generation previous v d) = some e ∧
      e.untimed =
        (observed generation (aggregate now (underlying generation previous v d))).untimed := by
  rw [conditions_eq]
  exact find?_install _ (type_aggregate _ _)

end Three

/-! ## The times of the three conditions -/

theorem find?_kept (ht : t ∈ statedTypes) :
    find? t (kept previous) = previous.bind fun s => find? t s.conditions := by
  cases previous with
  | none => rfl
  | some s =>
    simp only [kept, find?, Option.bind_some, List.find?_filter]
    congr
    funext c
    by_cases htype : c.type = t
    · simpa [htype, statedTypes] using ht
    · simp [htype]

@[simp] theorem time_deployed (now : String) (size : Int32) (pods : PodSummary)
    (error : Option String) :
    (Projection.deployed now size pods error).lastTransitionTime = some now := by
  unfold Projection.deployed
  split
  · rfl
  · split <;> rfl

/-- The conditions that a pass states, before the times of an earlier status are kept. -/
def statements (now : String) (generation : Int64) (previous : Option ClusterStatus)
    (v d : Condition) :
    List Condition :=
  [observed generation v, observed generation d,
    observed generation (aggregate now (underlying generation previous v d))]

theorem map_type_statements (hv : v.type = valid) (hd : d.type = Condition.deployed) (now : String)
    (generation : Int64) (previous : Option ClusterStatus) :
    (statements now generation previous v d).map type = statedTypes := by
  simp [statements, statedTypes, observed, hv, hd]

theorem generation_statements {c : Condition} (hc : c ∈ statements now generation previous v d) :
    c.observedGeneration = generation := by
  simp only [statements, List.mem_cons, List.not_mem_nil, or_false] at hc
  obtain rfl | rfl | rfl := hc <;> rfl

/-- Each condition that a pass states is found as it is dated by the one of its type that was
kept. -/
theorem find?_conditions (hv : v.type = valid) (hd : d.type = Condition.deployed) (now : String)
    (generation : Int64) (previous : Option ClusterStatus) {c : Condition}
    (hc : c ∈ statements now generation previous v d) :
    find? c.type (conditions now generation previous v d) =
      some (c.dated (find? c.type (kept previous))) := by
  have hv' : (observed generation v).type = valid := hv
  have hd' : (observed generation d).type = Condition.deployed := hd
  have hr' : (observed generation (aggregate now (underlying generation previous v d))).type =
      ready :=
    type_aggregate _ _
  simp only [statements, List.mem_cons, List.not_mem_nil, or_false] at hc
  rw [conditions_eq]
  obtain rfl | rfl | rfl := hc
  · rw [find?_install_of_ne _ (by rw [hv', hr']; decide), underlying,
      find?_install_of_ne _ (by rw [hv', hd']; decide), find?_install_self]
  · rw [find?_install_of_ne _ (by rw [hd', hr']; decide), underlying, find?_install_self,
      find?_install_of_ne _ (by rw [hd', hv']; decide)]
  · have hunderlying : find? ready (underlying generation previous v d) =
        find? ready (kept previous) := by
      rw [underlying, find?_install_of_ne _ (by rw [hd']; decide),
        find?_install_of_ne _ (by rw [hv']; decide)]
    rw [find?_install_self, hr', hunderlying]

/-! ## Settling -/

theorem unmet_conditions (now : String) (generation : Int64) (previous : Option ClusterStatus)
    (v d : Condition) :
    unmet (conditions now generation previous v d) = unmet (underlying generation previous v d) :=
  unmet_install_ready (c := observed generation _) (type_aggregate _ _) _

/-- `Ready` holds exactly if every other condition does. -/
theorem ready_iff (now : String) (generation : Int64) (previous : Option ClusterStatus)
    (v d : Condition) :
    (find? ready (conditions now generation previous v d)).elim false Condition.isTrue = true ↔
      unmet (conditions now generation previous v d) = [] := by
  obtain ⟨e, he, huntimed⟩ := find?_ready now generation previous v d
  rw [he, Option.elim_some, isTrue_of_untimed huntimed, unmet_conditions]
  exact isTrue_aggregate

/-- Where nothing is unmet, the condition that is found of any type but `Ready` holds. -/
theorem isTrue_of_unmet {cs : List Condition} {e : Condition} (hmet : unmet cs = [])
    (he : find? t cs = some e) (ht : t ≠ ready) : e.isTrue = true := by
  obtain ⟨hmem, htype⟩ := of_find?_eq_some he
  exact unmet_eq_nil_iff.mp hmet e hmem (htype ▸ ht)

/-- Where `Ready` holds, the conditions of this pass do, whatever an earlier status held. -/
theorem holds_of_ready (hv : v.type = valid) (hd : d.type = Condition.deployed)
    (hready : (find? ready (conditions now generation previous v d)).elim false Condition.isTrue =
      true) :
    v.isTrue = true ∧ ∀ t ∈ statedTypes, ∃ e,
      find? t (conditions now generation previous v d) = some e ∧ e.isTrue = true := by
  have hmet := (ready_iff now generation previous v d).mp hready
  obtain ⟨e, he, hev⟩ := find?_valid hv hd now generation previous
  obtain ⟨e', he', -⟩ := find?_deployed hd now generation previous (v := v)
  obtain ⟨e'', he'', -⟩ := find?_ready now generation previous v d
  have hvalid : e.isTrue = true := isTrue_of_unmet hmet he (by decide)
  refine ⟨(isTrue_of_untimed hev).symm.trans hvalid, ?_⟩
  simp only [statedTypes, List.forall_mem_cons, List.not_mem_nil, false_implies,
    implies_true, and_true]
  refine ⟨⟨e, he, hvalid⟩, ⟨e', he', isTrue_of_unmet hmet he' (by decide)⟩, e'', he'', ?_⟩
  simpa [he''] using hready

/-! ## The types of a projected status -/

section Types

variable (hv : v.type = valid) (hd : d.type = Condition.deployed)

include hv hd

theorem mem_types_conditions (now : String) (generation : Int64) (previous : Option ClusterStatus) :
    t ∈ (conditions now generation previous v d).map type ↔ t ∈ statedTypes := by
  have hkept : t ∈ (kept previous).map type → t ∈ statedTypes := by
    intro ht
    obtain ⟨c, hc, rfl⟩ := List.mem_map.mp ht
    obtain ⟨s, -, -, htype⟩ := mem_kept.mp hc
    exact htype
  have hvalid : (observed generation v).type = valid := hv
  have hdeployed : (observed generation d).type = Condition.deployed := hd
  rw [conditions_eq, mem_map_type_install, underlying, mem_map_type_install, mem_map_type_install,
    hvalid, hdeployed]
  simp only [observed, type_aggregate]
  constructor
  · rintro (rfl | rfl | rfl | ht)
    · decide
    · decide
    · decide
    · exact hkept ht
  · intro ht
    simp only [statedTypes, List.mem_cons, List.not_mem_nil, or_false] at ht
    obtain rfl | rfl | rfl := ht
    · exact .inr (.inr (.inl rfl))
    · exact .inr (.inl rfl)
    · exact .inl rfl

omit hv hd in
theorem nodup_types_of_kept (hkept : ((kept previous).map type).Nodup) (now : String)
    (generation : Int64) (v d : Condition) :
    ((conditions now generation previous v d).map type).Nodup :=
  nodup_map_type_install (nodup_map_type_install (nodup_map_type_install hkept))

omit hv hd in
theorem nodup_types_conditions (hprevious : ∀ s, previous = some s → (s.conditions.map type).Nodup)
    (now : String) (generation : Int64) (v d : Condition) :
    ((conditions now generation previous v d).map type).Nodup := by
  refine nodup_types_of_kept ?_ now generation v d
  cases previous with
  | none => exact List.nodup_nil
  | some s => exact (hprevious s rfl).sublist (List.filter_sublist.map type)

theorem perm_types_of_nodup (hnodup : ((conditions now generation previous v d).map type).Nodup) :
    ((conditions now generation previous v d).map type).Perm statedTypes := by
  refine (List.perm_ext_iff_of_nodup hnodup (by decide)).mpr fun t => ?_
  exact mem_types_conditions hv hd now generation previous

/-- A projected status has one condition of each of the three types, if the earlier status had no
two of a type. -/
theorem perm_types_conditions (hprevious : ∀ s, previous = some s → (s.conditions.map type).Nodup)
    (now : String) (generation : Int64) :
    ((conditions now generation previous v d).map type).Perm statedTypes :=
  perm_types_of_nodup hv hd (nodup_types_conditions hprevious now generation v d)

/-- The condition that is found of a type is one that the pass stated, dated by the one of its type
in the earlier status. -/
theorem exists_statement_of_find? {c : Condition}
    (hc : find? t (conditions now generation previous v d) = some c) :
    ∃ e ∈ statements now generation previous v d,
    c = e.dated (previous.bind fun s => find? t s.conditions) := by
  obtain ⟨hmem, rfl⟩ := of_find?_eq_some hc
  have htype : c.type ∈ statedTypes :=
    (mem_types_conditions hv hd now generation previous).mp (List.mem_map_of_mem hmem)
  have hstated := htype
  rw [← map_type_statements hv hd now generation previous] at hstated
  obtain ⟨e, he, hec⟩ := List.mem_map.mp hstated
  refine ⟨e, he, Option.some.inj ?_⟩
  rw [← hc, ← hec, find?_conditions hv hd now generation previous he, find?_kept (hec ▸ htype)]

theorem exists_statement_of_mem {c : Condition}
    (hnodup : ((conditions now generation previous v d).map type).Nodup)
    (hc : c ∈ conditions now generation previous v d) :
    ∃ e ∈ statements now generation previous v d,
      c = e.dated (previous.bind fun s => find? c.type s.conditions) :=
  exists_statement_of_find? hv hd (find?_of_mem hnodup hc)

/-- Each condition of a projected status without repeated types is one that the pass stated, but for
the time. -/
theorem untimed_of_mem_conditions {c : Condition}
    (hnodup : ((conditions now generation previous v d).map type).Nodup)
    (hc : c ∈ conditions now generation previous v d) :
    c.untimed = (observed generation v).untimed ∨ c.untimed = (observed generation d).untimed ∨
      c.untimed =
        (observed generation (aggregate now (underlying generation previous v d))).untimed := by
  obtain ⟨e, he, hce⟩ := exists_statement_of_mem hv hd hnodup hc
  rw [hce, untimed_dated]
  simp only [statements, List.mem_cons, List.not_mem_nil, or_false] at he
  obtain rfl | rfl | rfl := he
  · exact .inl rfl
  · exact .inr (.inl rfl)
  · exact .inr (.inr rfl)

/-- With no two conditions of a type to begin with, `Ready` holds exactly if the other two do. -/
theorem ready_iff_holds (hprevious : ∀ s, previous = some s → (s.conditions.map type).Nodup)
    (now : String) (generation : Int64) :
    (find? ready (conditions now generation previous v d)).elim false Condition.isTrue = true ↔
      v.isTrue = true ∧ d.isTrue = true := by
  have hnodup := nodup_types_conditions hprevious now generation v d
  obtain ⟨e, he, hev⟩ := find?_valid hv hd now generation previous
  obtain ⟨e', he', hed⟩ := find?_deployed hd now generation previous (v := v)
  have hvalid : e.isTrue = (observed generation v).isTrue := isTrue_of_untimed hev
  have hdeployed : e'.isTrue = (observed generation d).isTrue := isTrue_of_untimed hed
  change _ ↔ (observed generation v).isTrue = true ∧ (observed generation d).isTrue = true
  rw [ready_iff]
  constructor
  · intro hmet
    rw [← hvalid, ← hdeployed]
    exact ⟨isTrue_of_unmet hmet he (by decide), isTrue_of_unmet hmet he' (by decide)⟩
  · rintro ⟨htrue, htrue'⟩
    refine unmet_eq_nil_iff.mpr fun c hc hne => ?_
    obtain hstated | hstated | hstated := untimed_of_mem_conditions hv hd hnodup hc
    · exact (isTrue_of_untimed hstated).trans htrue
    · exact (isTrue_of_untimed hstated).trans htrue'
    · exact absurd ((type_of_untimed hstated).trans (type_aggregate _ _)) hne

end Types

/-! ## Projecting at another time, and once more -/

theorem map_untimed_conditions (hv : v.untimed = v'.untimed) (hd : d.untimed = d'.untimed)
    (now now' : String) (generation : Int64) (previous : Option ClusterStatus) :
    (conditions now generation previous v d).map untimed =
      (conditions now' generation previous v' d').map untimed := by
  have hv' : (observed generation v).untimed = (observed generation v').untimed :=
    congrArg (observed generation) hv
  have hd' : (observed generation d).untimed = (observed generation d').untimed :=
    congrArg (observed generation) hd
  have hunderlying : (underlying generation previous v d).map untimed =
      (underlying generation previous v' d').map untimed := by
    simp only [underlying, map_untimed_install, hv', hd']
  have hunmet : unmet (underlying generation previous v d) =
      unmet (underlying generation previous v' d') := by
    rw [← unmet_map_untimed, hunderlying, unmet_map_untimed]
  have haggregate :
      (observed generation (aggregate now (underlying generation previous v d))).untimed =
      (observed generation (aggregate now' (underlying generation previous v' d'))).untimed :=
    congrArg (observed generation) (untimed_aggregate hunmet)
  rw [conditions_eq, conditions_eq, map_untimed_install, map_untimed_install,
    haggregate, hunderlying]

/-- Projecting once more, from what was projected, changes no condition. -/
theorem conditions_conditions (hv : v.type = valid) (hd : d.type = Condition.deployed)
    (hv' : v'.untimed = v.untimed) (hd' : d'.untimed = d.untimed) {s : ClusterStatus}
    (hs : s.conditions = conditions now generation previous v d) (now' : String) :
    conditions now' generation (some s) v' d' = s.conditions := by
  have hkept : kept (some s) = s.conditions := by
    refine List.filter_eq_self.mpr fun c hc => ?_
    have htype := (mem_types_conditions hv hd now generation previous).mp
      (List.mem_map_of_mem (f := type) (hs ▸ hc))
    simpa [statedTypes] using htype
  obtain ⟨e, he, hev⟩ := find?_valid hv hd now generation previous
  obtain ⟨e', he', hed⟩ := find?_deployed hd now generation previous (v := v)
  obtain ⟨e'', he'', her⟩ := find?_ready now generation previous v d
  rw [← hs] at he he' he''
  have hvalid : (observed generation v').install s.conditions = s.conditions := by
    have htype : (observed generation v').type = valid := (type_of_untimed hv').trans hv
    refine install_eq_self (htype ▸ he) ?_
    rw [hev]
    exact congrArg (observed generation) hv'.symm
  have hdeployed : (observed generation d').install s.conditions = s.conditions := by
    have htype : (observed generation d').type = Condition.deployed :=
      (type_of_untimed hd').trans hd
    refine install_eq_self (htype ▸ he') ?_
    rw [hed]
    exact congrArg (observed generation) hd'.symm
  have hunderlying : underlying generation (some s) v' d' = s.conditions := by
    rw [underlying, hkept, hvalid, hdeployed]
  have hunmet : unmet (underlying generation previous v d) = unmet s.conditions := by
    rw [hs, unmet_conditions]
  rw [conditions_eq, hunderlying]
  refine install_eq_self (d := e'') ?_ ?_
  · have htype : (observed generation (aggregate now' s.conditions)).type = ready :=
      type_aggregate _ _
    rw [htype, he'']
  · rw [her]
    exact congrArg (observed generation) (untimed_aggregate hunmet)

end BrokerFleet.Projection
