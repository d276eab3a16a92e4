import BrokerFleet.Proofs.Address.Incarnations
import BrokerFleet.Proofs.Address.Restart

/-! # The first events after a start

A pod may come back while no controller runs. Then the first apply of a new controller takes the
word of the record, and what becomes of the pod depends on the order. Observed after that apply, it
invalidates the address. Observed before, it finds nothing to invalidate and its incarnation is used
up: the address is not brought to it, however often the two are seen again. -/

namespace BrokerFleet

open AddressLifecycle Keeping

variable {σ : Type} {h : Handler surroundings σ} {config : Config} {a : Address} {p : Pod}
  {m m' : AddressMemory} {s : σ} {log : List surroundings.Reply} {Q : σ → Prop}

/-- Surroundings in which a ready pod is found on a cluster that a declaration applies to, while the
record of the declaration is listed; and someone listens to triggers. -/
structure Returns (h : Handler surroundings σ) (a : Address) (p : Pod) (Q : σ → Prop) : Prop
    extends KeepsRecord h a Q where
  ready : ∃ uid, incarnation? p = some uid
  ns : a.metadata.key.ns = p.metadata.key.ns
  owned : ∀ s, Q s → ∃ o, ownerIn p.metadata.key (h (.getPod p.metadata.key) s).1 = some o ∧
    (ClusterSelector.ofNames a.spec.applyToClusterNames).appliesTo
      (clusterOfStatefulSet o.statefulSet) = true
  heard : ∀ k s, (h (.send (.address k)) s).1 = true

/-! ## Applied first -/

/-- A pod that returns after the only address was applied asks for a pass for it, and for nothing
else. -/
theorem triggered_of_returns (hreturns : Returns h a p Q) (hs : Q s) {checksum : Option String}
    (hnoticed : Noticed h p (tracked a checksum {}) s log m') :
    triggered log = [a.metadata.key] := by
  obtain ⟨uid, hready⟩ := hreturns.ready
  obtain ⟨o, howner, happlies⟩ := hreturns.owned s hs
  have htargets : targets p.metadata.key.ns (clusterOfStatefulSet o.statefulSet) a.metadata.key
      { spec := a.spec, selector := .ofNames a.spec.applyToClusterNames, checksum } = true := by
    simp [targets, hreturns.ns, happlies]
  have hon : onCluster (tracked a checksum {}) p o = [(a.metadata.key,
      { spec := a.spec, selector := .ofNames a.spec.applyToClusterNames, checksum })] :=
    List.filter_cons_of_pos htargets
  rw [triggered_of_noticed hnoticed ⟨hready, nofun⟩ howner hreturns.heard, hon]
  rfl

/-- An address that an observed pod asks a pass for is synchronized in that pass. -/
theorem synchronizes_of_triggered (hvalid : a.spec.violations = [])
    (hnoticed : Noticed h p m s log m') (hk : a.metadata.key ∈ triggered log) (s' : σ) :
    Synchronizes h config a m' s' := by
  refine (synchronizes_iff hvalid).mpr ⟨?_, .inl ((contains_of_noticed hnoticed _).mpr (.inl hk))⟩
  rw [Bool.eq_false_iff, ne_eq, isApplied_iff, checksum_of_noticed hnoticed, if_pos hk]
  exact nofun

theorem applied_first (config : Config) (hvalid : a.spec.violations = [])
    (hreturns : Returns h a p Q) (hs : Q s) :
    let applied := perform h config (.apply a) {} s
    let observed := perform h config (.pod p) applied.2.1 applied.2.2
    triggered observed.1.log = [a.metadata.key] ∧
      ∀ s', Synchronizes h config a observed.2.1 s' := by
  intro applied observed
  have happlied : applied = _ := perform_apply_of_recorded hvalid rfl (hreturns.recorded s hs)
  have hq : Q applied.2.2 := by
    rw [happlied]
    exact hreturns.kept _ (not_writesRecord_of_readOrCall rfl) s hs
  have htracked : applied.2.1 = tracked a (some (versionOf a)) {} := congrArg (·.2.1) happlied
  have hnoticed : Noticed h p applied.2.1 applied.2.2 observed.1.log observed.2.1 :=
    perform_noticed h config p applied.2.1 applied.2.2
  have htriggered : triggered observed.1.log = [a.metadata.key] :=
    triggered_of_returns hreturns hq (htracked ▸ hnoticed)
  refine ⟨htriggered, synchronizes_of_triggered hvalid hnoticed ?_⟩
  rw [htriggered]
  exact List.mem_singleton_self _

/-! ## Observed first -/

/-- A pod in this incarnation, and a declaration in this version, for which nothing will be done. -/
structure Overlooked (a : Address) (p : Pod) (m : AddressMemory) : Prop where
  seen : ∀ uid, ¬ IsNew m p uid
  quiet : isApplied m a = true ∨ m.deployments.contains a.metadata.key = false

/-- Nothing was synchronized, and no pass was asked for. -/
structure Idle (log : List surroundings.Reply) : Prop where
  untriggered : triggered log = []
  unlooked : ∀ x ∈ log, x.1.looksForCluster = false

theorem not_isNew_of_noticed (hnoticed : Noticed h p m s log m') (uid : String) :
    ¬ IsNew m' p uid := by
  rintro ⟨hready, hnew⟩
  rw [readyPods_of_noticed hnoticed] at hnew
  exact hnew (by simp [Operation.sighting, hready])

/-- A new controller that observes a pod before it applies anything does nothing about it. -/
theorem overlooked_of_noticed (hnoticed : Noticed h p {} s log m') :
    Overlooked a p m' ∧ Idle log := by
  have htriggered : triggered log = [] := by
    cases hnoticed with
    | passed => rfl
    | unowned => rfl
    | owned _ _ hstarts hsent =>
      obtain rfl := List.prefix_nil.mp hstarts
      exact triggered_of_sends hsent
  refine ⟨⟨not_isNew_of_noticed hnoticed, .inr ?_⟩, htriggered, fun x hx => ?_⟩
  · rw [Bool.eq_false_iff, ne_eq, contains_of_noticed hnoticed, htriggered]
    simp [Dict.contains]
  · obtain hget | ⟨t, hsend⟩ := mem_of_noticed hnoticed hx
    · rw [hget]
      rfl
    · rw [hsend]
      rfl

theorem Overlooked.step (config : Config) (hvalid : a.spec.violations = [])
    (hkeeps : KeepsRecord h a Q) (hoverlooked : Overlooked a p m) (hs : Q s) {op : Operation}
    (hop : op = .pod p ∨ op = .apply a) :
    Idle (perform h config op m s).1.log ∧ Overlooked a p (perform h config op m s).2.1 ∧
      Q (perform h config op m s).2.2 := by
  obtain rfl | rfl := hop
  · rw [perform_pod_of_seen hoverlooked.seen]
    exact ⟨⟨rfl, by simp⟩, hoverlooked, hs⟩
  · cases happlied : isApplied m a with
    | true =>
      rw [perform_apply_of_applied hvalid happlied]
      exact ⟨⟨rfl, by simp⟩, hoverlooked, hs⟩
    | false =>
      have huntracked := hoverlooked.quiet.resolve_left (by simp [happlied])
      rw [perform_apply_of_recorded hvalid huntracked (hkeeps.recorded s hs)]
      refine ⟨⟨rfl, fun x hx => (isListing_of_mem x hx).unlooked⟩, ⟨hoverlooked.seen, .inl ?_⟩, ?_⟩
      · rw [isApplied_iff, checksum_tracked, if_pos rfl]
      · exact hkeeps.kept _ (not_writesRecord_of_readOrCall rfl) s hs

/-- Turns in which a pod is observed or a declaration is applied. -/
def Repeats (a : Address) (p : Pod) (Q : σ → Prop) (turns : List (Turn σ)) : Prop :=
  ∀ t ∈ turns, (t.operation = .pod p ∨ t.operation = .apply a) ∧ ∀ s, Q s → Q (t.meanwhile s)

theorem Overlooked.run (config : Config) (hvalid : a.spec.violations = [])
    (hkeeps : KeepsRecord h a Q) (hoverlooked : Overlooked a p m) (hs : Q s) {turns : List (Turn σ)}
    (hrepeats : Repeats a p Q turns) :
    ∀ passage ∈ (carryOut h config turns m s).1, Idle passage.log := by
  induction turns generalizing m s with
  | nil => simp [carryOut]
  | cons t rest ih =>
    obtain ⟨⟨hop, hmeanwhile⟩, hrest⟩ := List.forall_mem_cons.mp hrepeats
    obtain ⟨hidle, hnext, hq⟩ := hoverlooked.step config hvalid hkeeps (hmeanwhile s hs) hop
    exact List.forall_mem_cons.mpr ⟨hidle, ih hnext hq hrest⟩

theorem observed_first (config : Config) (hvalid : a.spec.violations = [])
    (hkeeps : KeepsRecord h a Q) (hs : Q s) {turns : List (Turn σ)}
    (hrepeats : Repeats a p Q turns) :
    ∀ passage ∈ (carryOut h config (⟨id, .pod p⟩ :: turns) {} s).1, Idle passage.log := by
  obtain ⟨hoverlooked, hfirst⟩ := overlooked_of_noticed (a := a) (perform_noticed h config p {} s)
  have hq : Q (perform h config (.pod p) {} s).2.2 := hkeeps.step nofun hs
  exact List.forall_mem_cons.mpr ⟨hfirst, hoverlooked.run config hvalid hkeeps hq hrepeats⟩

/-! ## The order decides -/

/-- The first apply and the first observation of a pod that returned do not commute. Applied first,
the pod asks for one more apply, and that one synchronizes. Observed first, the pod asks for
nothing; and while only this pod is observed and this version applied, nothing ever synchronizes. -/
theorem order_of_first_events (config : Config) (hvalid : a.spec.violations = [])
    (hreturns : Returns h a p Q) (hs : Q s) :
    (let applied := perform h config (.apply a) {} s
      let observed := perform h config (.pod p) applied.2.1 applied.2.2
      triggered observed.1.log = [a.metadata.key] ∧
        ∀ s', Synchronizes h config a observed.2.1 s') ∧
      ∀ turns : List (Turn σ), Repeats a p Q turns →
        ∀ passage ∈ (carryOut h config (⟨id, .pod p⟩ :: turns) {} s).1,
          triggered passage.log = [] ∧ ∀ outcome,
          ¬ Synchronized h config a passage.log outcome := by
  refine ⟨applied_first config hvalid hreturns hs, fun turns hrepeats passage hpassage => ?_⟩
  have hidle := observed_first config hvalid hreturns.toKeepsRecord hs hrepeats passage hpassage
  exact ⟨hidle.untriggered, not_synchronized_of_unlooked hidle.unlooked⟩

theorem returns_recordKept : Returns recordKept plainAddress returningPod fun _ => True where
  toKeepsRecord := keepsRecord_recordKept
  ready := ⟨"u", rfl⟩
  ns := rfl
  owned _ _ := ⟨_, rfl, rfl⟩
  heard _ _ := rfl

theorem order_of_first_events_returningPod :
    let observed := perform recordKept {} (.pod returningPod)
      (perform recordKept {} (.apply plainAddress) {} ()).2.1 ()
    plainAddress.spec.violations = [] ∧
      Returns recordKept plainAddress returningPod (fun _ => True) ∧
      triggered observed.1.log = [plainAddress.metadata.key] ∧
      ∀ passage ∈ (carryOut recordKept {} [⟨id, .pod returningPod⟩, ⟨id, .apply plainAddress⟩] {}
        ()).1, triggered passage.log = [] ∧
          ∀ outcome, ¬ Synchronized recordKept {} plainAddress passage.log outcome := by
  obtain ⟨happlied, hnoticed⟩ := order_of_first_events {} rfl returns_recordKept
    (s := ()) trivial
  exact ⟨rfl, returns_recordKept, happlied.1,
    hnoticed [⟨id, .apply plainAddress⟩] (by simp [Repeats])⟩

/-- A new controller observes a pod that came back, and then applies the address on its cluster: no
pass is asked for, and nothing is brought to the pod's replica. -/
theorem returning_pod_overlooked :
    let run := carryOut recordKept {} [⟨id, .pod returningPod⟩, ⟨id, .apply plainAddress⟩] {} ()
    Recorded recordKept plainAddress () ∧
      ownerIn returningPod.metadata.key (recordKept (.getPod returningPod.metadata.key) ()).1 =
        some ⟨"c-ss", 0, .empty⟩ ∧
      run.1.flatMap (fun p => triggered p.log) = [] ∧
      ∀ passage ∈ run.1, ∀ outcome,
      ¬ Synchronized recordKept {} plainAddress passage.log outcome := by
  intro run
  refine ⟨recorded_recordKept, by decide +kernel, by decide +kernel, fun passage hpassage => ?_⟩
  have hunlooked : ∀ passage ∈ run.1, ∀ x ∈ passage.log, x.1.looksForCluster = false := by
    decide +kernel
  exact not_synchronized_of_unlooked (hunlooked passage hpassage)

end BrokerFleet
