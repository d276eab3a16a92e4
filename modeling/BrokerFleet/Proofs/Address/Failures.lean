import BrokerFleet.Proofs.Address.Coverage

/-! # Operations that fail

A failed operation of the address controller writes no config map, and leaves the memory as it was
but for one deployment: that of a declaration whose synchronization failed, which is remembered as
not applied. Until an operation on it succeeds, every apply of it synchronizes. -/

namespace BrokerFleet

open AddressLifecycle Keeping

/-! ## Config maps -/

/-- Whether a request changes the config maps in the store. -/
def Request.writesConfigMap : Request → Bool
  | .createConfigMap _ _ | .deleteConfigMap _ => true
  | _ => false

theorem Request.writesConfigMap_of_readOrCall {r : Request} (hr : r.isReadOrCall = true) :
    r.writesConfigMap = false := by
  cases r <;> first | rfl | cases hr

variable {σ β : Type} {h : Handler surroundings σ} {config : Config} {a : Address}
  {m m' : AddressMemory}
  {s s' : σ} {log : List surroundings.Reply} {outcome : Except Failure Action} {e : Failure}

/-- What can be seen of a state that only a change of the config maps changes, such as the config
maps. -/
def ShowsConfigMaps (h : Handler surroundings σ) (view : σ → β) : Prop :=
  ∀ r s, r.writesConfigMap = false → view (h r s).2 = view s

/-- No config map was written on the way from a state to another, and all of them are as they
were. -/
structure KeepsConfigMaps (h : Handler surroundings σ) (log : List surroundings.Reply) (s s' : σ) :
    Prop where
  unwritten : ∀ x ∈ log, x.1.writesConfigMap = false
  unchanged : ∀ (β : Type) (view : σ → β), ShowsConfigMaps h view → view s' = view s

theorem Keeping.Runs.keepsConfigMaps {t : Keeping Action} (hruns : Runs h t m s log outcome m' s')
    (hasked : ∀ x ∈ log, x.1.isReadOrCall = true) : KeepsConfigMaps h log s s' := by
  have hunwritten : ∀ x ∈ log, x.1.writesConfigMap = false :=
    fun x hx => Request.writesConfigMap_of_readOrCall (hasked x hx)
  refine ⟨hunwritten, fun β view hview => ?_⟩
  have hend : ((t.run.run m).run h s).2 = s' := by rw [hruns.comesTo]
  have hkept (r : Request) (hr : r.writesConfigMap = false) (s₁ : σ) (hs₁ : view s₁ = view s) :
      view (h r s₁).2 = view s := (hview r s₁ hr).trans hs₁
  rw [← hruns.asked] at hunwritten
  rw [← hend]
  exact Program.preserves_of_transcript (I := surroundings) (p := t.run.run m)
    (Q := fun s' => view s' = view s) hkept hunwritten rfl

/-! ## Cleanups and applies -/

theorem cleanup_of_error (hruns : Runs h (cleanup config a) m s log (.error e) m' s') :
    m' = m ∧ KeepsConfigMaps h log s s' := by
  obtain ⟨log₁, outcome, m₁, s₁, hruns₁, hcleaned⟩ := cleanup_cleaned h config a m s
  obtain ⟨rfl, rfl, rfl, rfl⟩ := hruns₁.unique hruns
  cases hcleaned with
  | failed hlog => exact ⟨rfl, hruns.keepsConfigMaps hlog⟩

/-- An apply of a valid declaration fails by its synchronization only. -/
theorem apply_of_error (hvalid : a.spec.violations = [])
    (hruns : Runs h (apply config a) m s log (.error e) m' s') :
    m' = tracked a none m ∧ Synchronized h config a log (.error e) ∧
    KeepsConfigMaps h log s s' := by
  obtain ⟨log₁, outcome, m₁, s₁, hruns₁, happlied⟩ := apply_applied h config a m s
  obtain ⟨rfl, rfl, rfl, rfl⟩ := hruns₁.unique hruns
  cases happlied with
  | refused hviolated => exact absurd hvalid hviolated
  | @failed _ _ looked hlooked s₂ _ hensure =>
    have hensured :=
      (AddressSync.asks_ensure config.clusterDomain a.metadata.key.ns a.spec).transcript h s₂
    refine ⟨rfl, ⟨s₂, (List.suffix_append _ _).isInfix, hensure⟩, hruns.keepsConfigMaps ?_⟩
    exact List.forall_mem_append.mpr ⟨fun x hx => (hlooked x hx).isReadOrCall, hensured⟩

/-- A declaration that is remembered as not applied waits for an apply. -/
theorem awaits_tracked (a : Address) (m : AddressMemory) :
    (tracked a none m).Awaits a.metadata.key :=
  ⟨by rw [contains_tracked, if_pos rfl], by rw [checksum_tracked, if_pos rfl]⟩

/-- What failed operations leave. A cleanup that fails leaves the memory and the config maps alone.
An invalid declaration is refused before anything is asked or changed. Where the synchronization of
an apply fails, the config maps and all other deployments are left alone, and the declaration is
remembered as not applied: whatever happens then, as long as no operation on it succeeds, an apply
of any valid version of it synchronizes. -/
theorem failed_operations_leave (h : Handler surroundings σ) (config : Config) (a : Address)
    (m : AddressMemory) (s : σ) :
    (∀ e log m' s', Runs h (cleanup config a) m s log (.error e) m' s' →
      m' = m ∧ KeepsConfigMaps h log s s') ∧
    (a.spec.violations ≠ [] → Runs h (apply config a) m s []
      (.error (.invalidConfig (Violation.renderAll a.spec.violations))) m s) ∧
    (a.spec.violations = [] → ∀ e log m' s', Runs h (apply config a) m s log (.error e) m' s' →
      Synchronized h config a log (.error e) ∧ KeepsConfigMaps h log s s' ∧
      m'.readyPods = m.readyPods ∧
      (∀ k, k ≠ a.metadata.key → m'.deployments.get? k = m.deployments.get? k) ∧
      m'.deployments.get? a.metadata.key =
        some { spec := a.spec, selector := .ofNames a.spec.applyToClusterNames, checksum := none } ∧
      ∀ (later : List (Turn σ)) (s₁ : σ),
        (∀ p ∈ (carryOut h config later m' s₁).1,
          p.operation.Concerns a.metadata.key → p.succeeded = false) →
        ∀ a' : Address, a'.metadata.key = a.metadata.key → a'.spec.violations = [] →
          ∀ s₂, Synchronizes h config a' (carryOut h config later m' s₁).2.1 s₂) := by
  refine ⟨fun e log m' s' hruns => cleanup_of_error hruns,
    fun hviolated => apply_runs_of_violations config hviolated m s,
    fun hvalid e log m' s' hruns => ?_⟩
  obtain ⟨rfl, hsynchronized, hkept⟩ := apply_of_error hvalid hruns
  refine ⟨hsynchronized, hkept, rfl, fun k hk => Dict.get?_insert_of_ne _ _ hk,
    Dict.get?_insert_self .., ?_⟩
  intro later s₁ hopen a' hkey hvalid' s₂
  have hawaits := carryOut_awaits hopen (awaits_tracked a m)
  exact synchronizes_of_awaits hvalid' (hkey ▸ hawaits) s₂

/-! ## A replica that cannot be reached -/

/-- A fleet of one replica that cannot be reached, whose state is the config maps in the store. -/
def unreachable : Handler surroundings (List ConfigMap)
  | .call _ _, maps => (.error (.transport "call" "connection refused"), maps)
  | r, maps => storing r maps

theorem showsConfigMaps_unreachable : ShowsConfigMaps unreachable (id : List ConfigMap → _) := by
  intro r maps hr
  cases r <;> first | rfl | cases hr

/-- A later version of an address that already has a record. -/
def revisedAddress : Address where
  metadata := { plainAddress.metadata with resourceVersion := some "2" }
  spec := { addressName := "b", removeFromBrokerOnDelete := true }

/-- A later version of a recorded address cannot be brought to its replica. The record stays, but
even an apply of the version that it holds synchronizes, also after a cleanup that fails. -/
theorem failed_operations_leave_unreachable :
    let maps := [(recordOf plainAddress).toConfigMap]
    let applied := perform unreachable {} (.apply revisedAddress) {} maps
    let cleaned := perform unreachable {} (.cleanup revisedAddress) applied.2.1 maps
    revisedAddress.spec.violations = [] ∧ plainAddress.spec.violations = [] ∧
      applied.1.succeeded = false ∧ cleaned.1.succeeded = false ∧ applied.2.2 = maps ∧
      applied.2.1.deployments.get? plainAddress.metadata.key =
        some ⟨revisedAddress.spec, .all, none⟩ ∧
      Synchronizes unreachable {} plainAddress cleaned.2.1 maps := by
  intro maps applied cleaned
  have happlied : applied.1.succeeded = false := by decide +kernel
  have hcleaned : cleaned.1.succeeded = false := by decide +kernel
  obtain ⟨log, outcome, m', s', hruns⟩ := Runs.total unreachable (apply {} revisedAddress) {} maps
  have hperform : applied = (⟨.apply revisedAddress, log, outcome.toBool⟩, m', s') :=
    perform_of_runs rfl hruns
  cases outcome with
  | ok action =>
    rw [hperform] at happlied
    cases happlied
  | error e =>
    obtain ⟨-, -, hfailed⟩ := failed_operations_leave unreachable {} revisedAddress {} maps
    obtain ⟨-, hkept, -, -, hget, hnext⟩ := hfailed rfl e log m' s' hruns
    have hmemory : applied.2.1 = m' := by rw [hperform]
    have hmaps : applied.2.2 = maps := by
      rw [hperform]
      exact hkept.unchanged _ _ showsConfigMaps_unreachable
    rw [← hmemory] at hget hnext
    have hlater :=
      hnext [⟨id, .cleanup revisedAddress⟩] maps (List.forall_mem_singleton.mpr fun _ => hcleaned)
    exact ⟨rfl, rfl, happlied, hcleaned, hmaps, hget, hlater plainAddress rfl rfl maps⟩

end BrokerFleet
