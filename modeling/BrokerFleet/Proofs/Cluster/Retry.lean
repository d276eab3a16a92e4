import BrokerFleet.Proofs.Cluster.Verdict
import BrokerFleet.Proofs.Dict.Lookup

/-! # Verdicts that are not retried

Some contents of a namespace make a cluster valid if nothing is wrong with the declaration itself. A
verdict that is not to be repeated is then due to an object that exists and falls short: one that is
missing is awaited. -/

namespace BrokerFleet.Validity

variable {σ : Type} {h : Handler surroundings σ} {Q : σ → Prop} {config : Config} {w : Contents}
  {c : Cluster} {s : σ}

/-! ## What the contents of a namespace decide -/

/-- What validation comes to wherever a namespace holds these contents. -/
def VerdictIn (config : Config) (c : Cluster) (w : Contents) (valid : Bool) : Prop :=
  ∀ (σ : Type) (h : Handler surroundings σ) (Q : σ → Prop) (s : σ), Serves h c.ns w Q → Q s →
    ∃ v, Task.outcome h (validate config c) s = .ok v ∧ v.isValid = valid

/-- A cluster is valid, or not valid by the first group that fails, which decides whether to repeat
the check. -/
inductive Decided (config : Config) (w : Contents) (c : Cluster) (v : Validation) : Prop where
  | valid (hholds : ∀ g : Group, g.Holds config w c) (hvalid : v.isValid = true)
  | invalid {g : Group} (hfirst : FirstFailing (Group.Holds config w c) Group.inOrder g)
      (hinvalid : v.isValid = false) (hretry : v.retry = true ↔ g.Awaits config w c)

theorem validate_decided (config : Config) (hserves : Serves h c.ns w Q) (hs : Q s) :
    ∃ v, Task.outcome h (validate config c) s = .ok v ∧ Decided config w c v := by
  obtain ⟨r, hr, hjudged, -⟩ := ends_checks config hserves s hs
  refine ⟨outcome (h .clock (Task.after h (checks config c).run s)).1 c.generation r, ?_, ?_⟩
  · rw [validate, Task.outcome_bind_ok _ hr, Task.outcome_bind_ok _ (Task.outcome_lift _ _ _)]
    rfl
  · obtain ⟨rfl, hall⟩ | ⟨g, f, rfl, hfirst, hg⟩ := hjudged
    · exact .valid hall rfl
    · cases hg with
      | failed _ _ hstatus _ hretry =>
        refine .invalid hfirst ?_ hretry
        simpa [outcome, Validation.isValid, Condition.isTrue, Condition.stated] using hstatus

theorem verdictIn_true (hholds : ∀ g : Group, g.Holds config w c) : VerdictIn config c w true := by
  intro σ h Q s hserves hs
  obtain ⟨v, hv, hdecided⟩ := validate_decided config hserves hs
  cases hdecided with
  | valid _ hvalid => exact ⟨v, hv, hvalid⟩
  | invalid hfirst _ _ => exact absurd (hholds _) hfirst.not_holds

theorem verdictIn_false {g : Group} (hnot : ¬ g.Holds config w c) : VerdictIn config c w false := by
  intro σ h Q s hserves hs
  obtain ⟨v, hv, hdecided⟩ := validate_decided config hserves hs
  cases hdecided with
  | valid hholds _ => exact absurd (hholds g) hnot
  | invalid _ hinvalid _ => exact ⟨v, hv, hinvalid⟩

/-! ## Declarations that some contents satisfy -/

/-- Nothing is wrong with a declaration itself: its fields, its budget and its images are in order,
login configurations are mounted from secrets, no purpose has two configurations, and a mounted
login configuration could have the configured form. -/
structure Admissible (config : Config) (c : Cluster) : Prop where
  fields : c.spec.WellFormed
  maps : ∀ name ∈ c.spec.deploymentPlan.extraMounts.configMaps,
    (Mount.configMap name).isJaas = false
  logging : (Mount.listed c.spec.deploymentPlan.extraMounts).countP Mount.isLogging ≤ 1
  jaas : (Mount.listed c.spec.deploymentPlan.extraMounts).countP Mount.isJaas ≤ 1
  login : ∀ name ∈ c.spec.deploymentPlan.extraMounts.secrets, (Mount.secret name).isJaas = true →
    ∃ content, ∀ form, config.jaasSyntax = some form → form.accepts content = true
  budget : ∀ b, c.spec.deploymentPlan.podDisruptionBudget = some b → b.selector = none
  images : ImagesSettled c.spec

/-- A secret that holds everything that is ever asked for, with a given login configuration. -/
def completeSecret (content : String) : Secret where
  stringData :=
    some (["keyStorePassword", "trustStorePassword", "keyStorePath", "trustStorePath",
      loggingKey].foldl
    (fun d key => d.insert key "") Dict.empty |>.insert jaasKey content)

/-- Contents in which every object exists and holds everything that is ever asked for. -/
def complete (content : String) : Contents where
  configMaps _ := some { data := some (Dict.empty.insert loggingKey "") }
  secrets _ := some (completeSecret content)

theorem hasKey_completeSecret (content : String) :
    ∀ key ∈ ["keyStorePassword", "trustStorePassword", "keyStorePath",
      "trustStorePath", loggingKey], (completeSecret content).hasKey key = true := by
  intro key hkey
  refine Secret.hasKey_iff.mpr (.inr ⟨_, rfl, ?_⟩)
  revert key
  simp [Dict.contains, Dict.get?_insert, loggingKey, jaasKey]

theorem value?_completeSecret (content : String) :
    (completeSecret content).value? jaasKey = some content := by
  simp [completeSecret, Secret.value?]

theorem consoleSecret_completeSecret (content : String) :
    ConsoleSecret (completeSecret content) where
  keyStorePassword := hasKey_completeSecret content _ (by simp)
  trustStorePassword := hasKey_completeSecret content _ (by simp)
  keyStore := .inl (hasKey_completeSecret content _ (by simp))
  trustStore := .inl (hasKey_completeSecret content _ (by simp))

namespace Admissible

theorem of_holds (hholds : ∀ g : Group, g.Holds config w c) : Admissible config c := by
  have hmounts : MountsSound config w c.spec.deploymentPlan.extraMounts := hholds .mounts
  refine ⟨hholds .fields, fun name hname => ?_, hmounts.logging, hmounts.jaas,
    fun name hname hjaas => ?_, hholds .budget, hholds .images⟩
  · obtain ⟨map, hsound⟩ :=
      hmounts.each (.configMap name) (List.mem_append_left _ (List.mem_map_of_mem hname))
    exact hsound.not_jaas
  · obtain ⟨held, hsound⟩ :=
      hmounts.each (.secret name) (List.mem_append_right _ (List.mem_map_of_mem hname))
    obtain ⟨content, -, haccepts⟩ := hsound.jaas hjaas
    exact ⟨content, haccepts⟩

theorem exists_content (hadmissible : Admissible config c) : ∃ content,
    ∀ name ∈ c.spec.deploymentPlan.extraMounts.secrets, (Mount.secret name).isJaas = true →
      ∀ form, config.jaasSyntax = some form → form.accepts content = true := by
  by_cases hmounted : ∃ name ∈ c.spec.deploymentPlan.extraMounts.secrets,
    (Mount.secret name).isJaas = true
  · obtain ⟨name, hname, hjaas⟩ := hmounted
    obtain ⟨content, haccepts⟩ := hadmissible.login name hname hjaas
    exact ⟨content, fun _ _ _ => haccepts⟩
  · exact ⟨"", fun name hname hjaas => absurd ⟨name, hname, hjaas⟩ hmounted⟩

/-- Complete contents make a declaration valid in which nothing is wrong. -/
theorem exists_holds (hadmissible : Admissible config c) :
    ∃ w, ∀ g : Group, g.Holds config w c := by
  obtain ⟨content, haccepts⟩ := hadmissible.exists_content
  refine ⟨complete content, fun g => ?_⟩
  cases g with
  | fields => exact hadmissible.fields
  | mounts =>
    refine ⟨fun m hm => ?_, hadmissible.logging, hadmissible.jaas⟩
    rcases List.mem_append.mp hm with hmap | hsecret
    · obtain ⟨name, hname, rfl⟩ := List.mem_map.mp hmap
      exact ⟨_, rfl, hadmissible.maps name hname, fun _ =>
        ConfigMap.hasKey_iff.mpr ⟨_, rfl, by simp [Dict.contains]⟩⟩
    · obtain ⟨name, hname, rfl⟩ := List.mem_map.mp hsecret
      exact ⟨_, rfl, fun _ => hasKey_completeSecret content _ (by simp), fun hjaas =>
        ⟨content, value?_completeSecret content, haccepts name hname hjaas⟩⟩
  | budget => exact hadmissible.budget
  | console => exact fun _ => ⟨_, rfl, consoleSecret_completeSecret content⟩
  | images => exact hadmissible.images

end Admissible

/-! ## Verdicts that are not retried -/

/-- An object that a cluster refers to exists and falls short of what is asked of it. -/
inductive FallsShort (config : Config) (w : Contents) (c : Cluster) : Prop where
  | mount {m : Mount} (hlisted : m ∈ Mount.listed c.spec.deploymentPlan.extraMounts)
      (hpresent : ¬ m.Absent w) (hunsound : ¬ m.Sound config w)
  | console {held : Secret}
      (hfound : w.secrets (ClusterNames.ofCluster c).consoleSecret = some held)
      (hincomplete : ¬ ConsoleSecret held)

theorem fallsShort_of_mounts (hadmissible : Admissible config c)
    (hnot : ¬ MountsSound config w c.spec.deploymentPlan.extraMounts)
    (hpresent : ¬ AwaitsMount config w c.spec.deploymentPlan.extraMounts) :
    FallsShort config w c := by
  have hunsound : ∃ m ∈ Mount.listed c.spec.deploymentPlan.extraMounts, ¬ m.Sound config w := by
    by_contra hnone
    push Not at hnone
    exact hnot ⟨hnone, hadmissible.logging, hadmissible.jaas⟩
  obtain ⟨m, hlisted, hm⟩ := hunsound
  obtain ⟨first, hfirst⟩ := FirstFailing.exists_of_mem hlisted hm
  exact .mount hfirst.mem (fun habsent => hpresent ⟨first, hfirst, habsent⟩) hfirst.not_holds

/-- If a verdict on a cluster that is not valid is not to be retried, then either the declaration
itself is to blame, and no contents of the namespace make it valid, or an object exists that falls
short; then some contents do. -/
theorem unretried_verdict (config : Config) (hserves : Serves h c.ns w Q) (hs : Q s)
    {v : Validation} (hv : Task.outcome h (validate config c) s = .ok v)
    (hinvalid : v.isValid = false) (hunretried : v.retry = false) :
    (¬ Admissible config c ∧ ∀ w', VerdictIn config c w' false) ∨
      (Admissible config c ∧ FallsShort config w c ∧ ∃ w', VerdictIn config c w' true) := by
  by_cases hadmissible : Admissible config c
  · obtain ⟨v', hv', hdecided⟩ := validate_decided config hserves hs
    obtain rfl : v = v' := Except.ok.inj (hv.symm.trans hv')
    obtain ⟨w', hholds⟩ := hadmissible.exists_holds
    refine .inr ⟨hadmissible, ?_, w', verdictIn_true hholds⟩
    cases hdecided with
    | valid _ hvalid => exact nomatch hvalid.symm.trans hinvalid
    | @invalid g hfirst _ hretry =>
      have hnot := hfirst.not_holds
      have hpresent : ¬ g.Awaits config w c :=
        fun hawaits => nomatch hunretried.symm.trans (hretry.mpr hawaits)
      cases g with
      | fields => exact absurd hadmissible.fields hnot
      | mounts => exact fallsShort_of_mounts hadmissible hnot hpresent
      | budget => exact absurd hadmissible.budget hnot
      | console =>
        obtain ⟨held, hfound⟩ := Option.ne_none_iff_exists'.mp hpresent
        exact .console hfound fun hcomplete => hnot fun _ => ⟨held, hfound, hcomplete⟩
      | images => exact absurd hadmissible.images hnot
  · refine .inl ⟨hadmissible, fun w' => ?_⟩
    have hnot : ¬ ∀ g : Group, g.Holds config w' c := fun hholds => hadmissible (.of_holds hholds)
    obtain ⟨g, hg⟩ := Classical.not_forall.mp hnot
    exact verdictIn_false hg

def loggingCluster : Cluster where
  metadata := { name := some "broker", ns := some "test-ns" }
  spec := { deploymentPlan := { extraMounts := { configMaps := ["my-logging-config"] } } }

/-- Contents in which every config map holds what is given, and no secret exists. -/
def mapsOf (data : Dict String String) : Contents :=
  ⟨fun _ => some { data := some data }, fun _ => none⟩

/-- A logging configuration without its key is one that falls short. -/
theorem unretried_verdict_loggingCluster :
    (∃ v, Task.outcome (holding (mapsOf .empty)) (validate {} loggingCluster) () = .ok v ∧
      v.isValid = false ∧
        v.retry = false) ∧
      FallsShort {} (mapsOf .empty) loggingCluster ∧ ∃ w', VerdictIn {} loggingCluster w' true := by
  have hserves := serves_holding loggingCluster.ns (mapsOf .empty)
  obtain ⟨v, hv, hinvalid, hunretried⟩ : ∃ v,
      Task.outcome (holding (mapsOf .empty)) (validate {} loggingCluster) () =
      .ok v ∧ v.isValid = false ∧ v.retry = false := ⟨_, rfl, by decide +kernel, by decide +kernel⟩
  have hkeyed : ∃ v, Task.outcome (holding (complete "")) (validate {} loggingCluster) () = .ok v ∧
      v.isValid = true := ⟨_, rfl, by decide +kernel⟩
  obtain ⟨-, hfinal⟩ | ⟨-, hshort, hclears⟩ :=
    unretried_verdict {} hserves trivial hv hinvalid hunretried
  · obtain ⟨v', hv', hvalid⟩ := hkeyed
    obtain ⟨v'', hv'', hnot⟩ := hfinal (complete "") Unit _ _ () (serves_holding _ _) trivial
    obtain rfl : v' = v'' := Except.ok.inj (hv'.symm.trans hv'')
    exact nomatch hvalid.symm.trans hnot
  · exact ⟨⟨v, hv, hinvalid, hunretried⟩, hshort, hclears⟩

/-- The verdict on a logging configuration without its key is not to be retried, and once the key is
there the cluster is valid. -/
theorem keyless_mount_unretried :
    (∃ v, Task.outcome (holding (mapsOf .empty)) (validate {} loggingCluster) () = .ok v ∧
        v.condition.isTrue = false ∧ v.retry = false) ∧
      ∃ v, Task.outcome (holding (mapsOf (Dict.empty.insert loggingKey "")))
        (validate {} loggingCluster) () = .ok v ∧
        v.condition.isTrue = true :=
  ⟨⟨_, rfl, by decide +kernel, by decide +kernel⟩, _, rfl, by decide +kernel⟩

end BrokerFleet.Validity
