import BrokerFleet.Handler.Registry
import BrokerFleet.Proofs.Dict.Lookup
import BrokerFleet.Proofs.Program.Task
import BrokerFleet.Proofs.Store.Reading

/-! # Which clusters hear of a change of handlers

A forced registration announces the new handler, a removal the one that it takes out: the clusters
are listed, and a pass is asked for over each that the announced handler applies to. Either kind of
change can change what a cluster finds. A removal reaches all of those clusters, but only if the
listing succeeds, and the handler is gone either way. A registration in the place of an earlier
handler does not reach the clusters that only the earlier one applied to. -/

namespace BrokerFleet.HandlerRegistry

variable {σ : Type} {hd : Handler surroundings σ} {r : HandlerRegistry} {s : σ} {owner : ObjectKey}
  {h new old : ConfigHandler} {cluster : ObjectKey}

/-! ## What a cluster finds -/

theorem lookup_eq_find? (r : HandlerRegistry) (cluster : ObjectKey) :
    lookup r cluster = (r.entries.find? fun e => e.2.appliesTo cluster).map Prod.snd := by
  rw [lookup, Dict.values, List.find?_map]
  rfl

/-- A handler that does not apply to a cluster stands in the place of its owner as if there were
none. -/
theorem lookup_insert_of_not_applies (r : HandlerRegistry) (owner : ObjectKey)
    (hnew : new.appliesTo cluster = false) :
    lookup (r.insert owner new) cluster = lookup (r.erase owner) cluster := by
  obtain ⟨before, after, hinsert, herase⟩ := r.exists_entries owner
  simp [lookup_eq_find?, hinsert, herase, List.find?_append, hnew]

theorem lookup_erase_of_not_applies
    (hold : ∀ old, r.get? owner = some old → old.appliesTo cluster = false) :
    lookup (r.erase owner) cluster = lookup r cluster := by
  cases hfound : r.get? owner with
  | none => rw [Dict.erase_of_get?_eq_none hfound]
  | some old =>
    rw [← lookup_insert_of_not_applies r owner (hold old hfound), Dict.insert_of_get? hfound]

/-! ## Who hears of a handler -/

/-- The pass over a cluster that an announcement asks for. -/
def pass (c : Cluster) : Trigger := .cluster c.metadata.ns c.metadata.anyName

/-- The pass that a request asked for, if someone listened. -/
def heard? : surroundings.Reply → Option Trigger
  | ⟨.send t, true⟩ => some t
  | _ => none

def passesIn (log : List surroundings.Reply) : List Trigger := log.filterMap heard?

def listing (answer : Except Failure (List Cluster)) : surroundings.Reply :=
  ⟨.listClusters none, answer⟩

def Listens (hd : Handler surroundings σ) : Prop := ∀ t s, (hd (.send t) s).1 = true

theorem key_eq_of_pass {c c' : Cluster} (h : pass c = pass c') : c.key = c'.key := by
  simp only [pass, Trigger.cluster.injEq] at h
  simp [Cluster.key, Metadata.key, h.1, h.2]

def audience (h : ConfigHandler) (clusters : List Cluster) : List Trigger :=
  (clusters.filter fun c => h.appliesTo c.key).map pass

theorem pass_mem_audience {clusters : List Cluster} {c : Cluster} (hc : c ∈ clusters) :
    pass c ∈ audience h clusters ↔ h.appliesTo c.key = true := by
  simp only [audience, List.mem_map, List.mem_filter]
  constructor
  · rintro ⟨c', ⟨-, happlies⟩, hpass⟩
    rwa [← key_eq_of_pass hpass]
  · intro happlies
    exact ⟨c, ⟨hc, happlies⟩, rfl⟩

theorem passesIn_sendEach (hlistens : Listens hd) (h : ConfigHandler) (clusters : List Cluster)
    (s : σ) :
    passesIn ((sendEach h clusters).transcript hd s) = audience h clusters := by
  induction clusters generalizing s with
  | nil => rfl
  | cons c rest ih =>
    rw [sendEach]
    cases happlies : h.appliesTo c.key with
    | false => simpa [audience, happlies] using ih s
    | true =>
      -- only a pass that no one hears would end the walk here
      have hrest := ih (hd (.send (pass c)) s).2
      rw [if_pos rfl]
      show passesIn (Program.transcript hd (sendTrigger (pass c) >>= _) s) = _
      rw [transcript_sendTrigger_bind, hlistens, if_pos rfl, Program.transcript_bind]
      simp only [passesIn, heard?, Program.pure_def, Program.transcript_done, List.append_nil,
        List.filterMap_cons] at hrest ⊢
      simp [hrest, audience, happlies]

/-! ## Changes -/

inductive Change where
  | register (owner : ObjectKey) (new : ConfigHandler) (force : Bool)
  | unregister (owner : ObjectKey)

namespace Change

def task : Change → Registering Unit
  | register owner new force => HandlerRegistry.register owner new force
  | unregister owner => HandlerRegistry.unregister owner

def result (r : HandlerRegistry) : Change → HandlerRegistry
  | register owner new _ => r.insert owner new
  | unregister owner => r.erase owner

/-- The handler that a change announces. -/
def announced (r : HandlerRegistry) : Change → Option ConfigHandler
  | register _ new force => if force then some new else none
  | unregister owner => r.get? owner

/-- A change that is to ask for a pass over every cluster concerned: a forced registration or a
removal. -/
def Tells : Change → Prop
  | register _ _ force => force = true
  | unregister _ => True

/-- A change that installs a handler for an owner. -/
def Installs (owner : ObjectKey) : Change → Prop
  | register owner' _ _ => owner' = owner
  | unregister _ => False

end Change

/-- An announcement at the end of a change asks what it asks by itself, and fails as it does. -/
theorem run_announce (h : ConfigHandler) (r : HandlerRegistry) :
    (ofTask (fanOut h) >>= fun _ => (pure () : Registering Unit)).run.run r =
      (fanOut h).run >>= fun fanned => pure (fanned.map fun _ => (), r) := by
  have hrun : (ofTask (fanOut h)).run.run r = (fanOut h).run >>= fun fanned => pure (fanned, r) :=
    rfl
  rw [ExceptT.run_bind, StateT.run_bind, hrun, Program.bind_assoc]
  congr 1
  funext fanned
  cases fanned <;> rfl

theorem run_unregister (owner : ObjectKey) (r : HandlerRegistry) :
    (unregister owner).run.run r =
      match r.get? owner with
      | none => pure (.ok (), r)
      | some old =>
        (fanOut old).run >>= fun fanned => pure (fanned.map fun _ => (), r.erase owner) := by
  have hrun : (unregister owner).run.run r = (match r.get? owner with
      | none => pure ()
      | some old => do
        set (r.erase owner)
        let _ ← ofTask (fanOut old) : Registering Unit).run.run r := rfl
  rw [hrun]
  cases r.get? owner with
  | none => rfl
  | some old => exact run_announce old (r.erase owner)

/-- A change announces a handler, or is made without a request; the registry is changed either
way. -/
theorem run_task (c : Change) (r : HandlerRegistry) :
    c.task.run.run r =
      match c.announced r with
      | none => pure (.ok (), c.result r)
      | some h => (fanOut h).run >>= fun fanned => pure (fanned.map fun _ => (), c.result r) := by
  cases c with
  | register owner new force =>
    cases force with
    | false => rfl
    | true => exact run_announce new (r.insert owner new)
  | unregister owner =>
    refine (run_unregister owner r).trans ?_
    simp only [Change.announced, Change.result]
    cases hfound : r.get? owner with
    | none => rw [Dict.erase_of_get?_eq_none hfound]
    | some old => rfl

structure Made where
  change : Change
  log : List surroundings.Reply
  outcome : Except Failure Unit

/-- Makes a change: how it went, and the registry and the state that it leads to. -/
def make (hd : Handler surroundings σ) (c : Change) (r : HandlerRegistry) (s : σ) :
    Made × HandlerRegistry × σ :=
  let x := (c.task.run.run r).run hd s
  (⟨c, (c.task.run.run r).transcript hd s, x.1.1⟩, x.1.2, x.2)

theorem make_of_quiet {c : Change} (hannounced : c.announced r = none) :
    make hd c r s = (⟨c, [], .ok ()⟩, c.result r, s) := by
  rw [make, run_task, hannounced]
  rfl

theorem make_of_announced {c : Change} (hannounced : c.announced r = some h) :
    make hd c r s =
      (⟨c, Task.transcript hd (fanOut h) s, (Task.outcome hd (fanOut h) s).map fun _ => ()⟩,
        c.result r, Task.after hd (fanOut h) s) := by
  rw [make, run_task, hannounced]
  simp [Program.run_bind, Program.transcript_bind, Task.transcript, Task.outcome, Task.after]

theorem registry_of_make (hd : Handler surroundings σ) (c : Change) (r : HandlerRegistry) (s : σ) :
    (make hd c r s).2.1 = c.result r := by
  cases hannounced : c.announced r with
  | none => rw [make_of_quiet hannounced]
  | some h => rw [make_of_announced hannounced]

/-- The three ways in which a change goes: without an announcement, with one that fails for want of
the clusters, and with one that reaches those that the handler applies to, if someone listens. -/
inductive Goes (hd : Handler surroundings σ) (c : Change) (r : HandlerRegistry) (s : σ) :
    List surroundings.Reply → Except Failure Unit → Prop where
  | quietly (hannounced : c.announced r = none) : Goes hd c r s [] (.ok ())
  | unlisted {h : ConfigHandler} {e : Failure} (hannounced : c.announced r = some h)
      (hlisted : (hd (.listClusters none) s).1 = .error e) :
      Goes hd c r s [listing (.error e)] (.error e)
  | announced {h : ConfigHandler} {clusters : List Cluster} {sent : List surroundings.Reply}
      (hannounced : c.announced r = some h) (hlisted : (hd (.listClusters none) s).1 = .ok clusters)
      (hsent : Listens hd → passesIn sent = audience h clusters) :
      Goes hd c r s (listing (.ok clusters) :: sent) (.ok ())

theorem make_goes (hd : Handler surroundings σ) (c : Change) (r : HandlerRegistry) (s : σ) :
    Goes hd c r s (make hd c r s).1.log (make hd c r s).1.outcome := by
  cases hannounced : c.announced r with
  | none =>
    rw [make_of_quiet hannounced]
    exact .quietly hannounced
  | some h =>
    rw [make_of_announced hannounced]
    have hasked : Task.transcript hd (Task.listClusters none) s =
        [listing (hd (.listClusters none) s).1] := rfl
    cases hlisted : (hd (.listClusters none) s).1 with
    | error e =>
      have hfailed : Task.outcome hd (Task.listClusters none) s = .error e := hlisted
      rw [fanOut, Task.transcript_bind_error _ hfailed, Task.outcome_bind_error _ hfailed,
        hasked, hlisted]
      exact .unlisted hannounced hlisted
    | ok clusters =>
      have hfound : Task.outcome hd (Task.listClusters none) s = .ok clusters := hlisted
      rw [fanOut, Task.transcript_bind_ok _ hfound, Task.outcome_bind_ok _ hfound, hasked, hlisted,
        Task.transcript_lift, Task.outcome_lift]
      exact .announced hannounced hlisted fun hlistens => passesIn_sendEach hlistens h clusters _

/-- Where the clusters can be listed and someone listens, a change succeeds, and whoever the handler
that it announces applies to hears of it; without one, nothing is asked. -/
theorem made_hears {c : Change} {clusters : List Cluster} (hlistens : Listens hd)
    (hlisted : (hd (.listClusters none) s).1 = .ok clusters) :
    let made := (make hd c r s).1
    made.outcome = .ok () ∧
      match c.announced r with
      | none => made.log = []
      | some h => passesIn made.log = audience h clusters := by
  intro made
  have hgoes : Goes hd c r s made.log made.outcome := make_goes hd c r s
  generalize made.log = log, made.outcome = outcome at hgoes ⊢
  cases hgoes with
  | quietly hannounced => simp [hannounced]
  | unlisted hannounced hfailed =>
    rw [hlisted] at hfailed
    cases hfailed
  | announced hannounced hfound hsent =>
    rw [hlisted] at hfound
    cases hfound
    rw [hannounced]
    exact ⟨rfl, hsent hlistens⟩

/-! ## Whom a change passes over -/

section Telling

variable {c : Change} {clusters : List Cluster} {cl : Cluster}

/-- Where the clusters can be listed and someone listens, a change succeeds and tells the clusters
that the announced handler applies to. -/
theorem told_iff (hlistens : Listens hd) (hlisted : (hd (.listClusters none) s).1 = .ok clusters)
    (hcl : cl ∈ clusters) :
    (make hd c r s).1.outcome = .ok () ∧
      (pass cl ∈ passesIn (make hd c r s).1.log ↔
        ∃ h, c.announced r = some h ∧ h.appliesTo cl.key = true) := by
  obtain ⟨hok, hhears⟩ := made_hears (c := c) (r := r) hlistens hlisted
  refine ⟨hok, ?_⟩
  cases hannounced : c.announced r with
  | none =>
    rw [hannounced] at hhears
    simp [passesIn, show (make hd c r s).1.log = [] from hhears]
  | some h =>
    rw [hannounced] at hhears
    simp [show passesIn (make hd c r s).1.log = audience h clusters from hhears,
      pass_mem_audience hcl]

/-- A change that is to tell the clusters, made where they can be listed and someone listens,
succeeds. Of the clusters that there are, one finds another handler afterwards and is not told in
one case only: a registration puts a handler that does not apply to it in the place of the one that
it found. -/
theorem untold_iff (htells : c.Tells) (hlistens : Listens hd)
    (hlisted : (hd (.listClusters none) s).1 = .ok clusters) (hcl : cl ∈ clusters) :
    let made := make hd c r s
    made.1.outcome = .ok () ∧
      (lookup made.2.1 cl.key ≠ lookup r cl.key ∧ pass cl ∉ passesIn made.1.log ↔
        ∃ owner new, c = .register owner new true ∧ new.appliesTo cl.key = false ∧
          lookup (r.erase owner) cl.key ≠ lookup r cl.key) := by
  intro made
  obtain ⟨hok, htold⟩ := told_iff (c := c) (r := r) hlistens hlisted hcl
  refine ⟨hok, ?_⟩
  rw [htold, registry_of_make]
  cases c with
  | register owner new force =>
    obtain rfl : force = true := htells
    simp only [Change.announced, if_true, Option.some.injEq, exists_eq_left', Bool.not_eq_true,
      Change.result, Change.register.injEq]
    -- a cluster that the new handler passes over sees no more than the earlier one go
    constructor
    · rintro ⟨hchanged, hnew⟩
      rw [lookup_insert_of_not_applies r owner hnew] at hchanged
      exact ⟨owner, new, ⟨rfl, rfl, trivial⟩, hnew, hchanged⟩
    · rintro ⟨_, _, ⟨rfl, rfl, -⟩, hnew, hchanged⟩
      rw [lookup_insert_of_not_applies r owner hnew]
      exact ⟨hchanged, hnew⟩
  | unregister owner =>
    -- whoever finds another handler found the one that is gone, and that one is announced
    refine iff_of_false ?_ (by simp)
    rintro ⟨hchanged, huntold⟩
    refine hchanged (lookup_erase_of_not_applies fun old hold => ?_)
    rw [← Bool.not_eq_true]
    exact fun happlies => huntold ⟨old, hold, happlies⟩

def handlerFor (names : List String) : ConfigHandler where
  appliesTo k := names.contains k.name
  arguments _ _ _ _ := names

def namedCluster (name : String) : Cluster where
  metadata := { name := some name, ns := some "n" }
  spec := {}

/-- Two clusters, and someone who listens; the state says whether the next listing fails. -/
def twoClusters : Handler surroundings Bool
  | .listClusters _, fails =>
    (if fails then .error (.api .unreadable) else .ok [namedCluster "a", namedCluster "b"], false)
  | .send _, fails => (true, fails)
  | r, fails => (r.refusal, fails)

def oneHandler : HandlerRegistry := Dict.empty.insert ⟨"n", "o"⟩ (handlerFor ["a"])

theorem untold_iff_twoClusters :
    let c : Change := .register ⟨"n", "o"⟩ (handlerFor ["b"]) true
    let made := make twoClusters c oneHandler false
    c.Tells ∧ Listens twoClusters ∧
      (twoClusters (.listClusters none) false).1 = .ok [namedCluster "a", namedCluster "b"] ∧
      made.1.outcome = .ok () ∧ lookup made.2.1 ⟨"n", "a"⟩ ≠ lookup oneHandler ⟨"n", "a"⟩ ∧
      pass (namedCluster "a") ∉ passesIn made.1.log := by
  have hlistens : Listens twoClusters := fun _ _ => rfl
  obtain ⟨hok, huntold⟩ := untold_iff (c := .register ⟨"n", "o"⟩ (handlerFor ["b"]) true)
    (r := oneHandler) (s := false) rfl hlistens rfl
    (List.mem_cons_self (a := namedCluster "a") (l := [namedCluster "b"]))
  have hlost : lookup (oneHandler.erase ⟨"n", "o"⟩) ⟨"n", "a"⟩ ≠ lookup oneHandler ⟨"n", "a"⟩ :=
    nofun
  exact ⟨rfl, hlistens, rfl, hok, huntold.mpr ⟨_, _, rfl, rfl, hlost⟩⟩

/-- The handler of the cluster `a` is replaced by one for `b`: of the two, only `b` is told. -/
theorem replaced_handler_untold :
    let made := make twoClusters (.register ⟨"n", "o"⟩ (handlerFor ["b"]) true) oneHandler false
    made.1.outcome = .ok () ∧ passesIn made.1.log = [pass (namedCluster "b")] ∧
      (lookup oneHandler (namedCluster "a").key).isSome ∧
      (lookup made.2.1 (namedCluster "a").key).isNone :=
  ⟨rfl, rfl, rfl, rfl⟩

end Telling

/-! ## What becomes of a removal that failed -/

/-- A change that is made after something happened to the surroundings. -/
structure Turn (σ : Type) where
  meanwhile : σ → σ
  change : Change

/-- Makes change after change: how they went, and the registry and the state that they lead to. -/
def makeAll (hd : Handler surroundings σ) :
    List (Turn σ) → HandlerRegistry → σ → List Made × HandlerRegistry × σ
  | [], r, s => ([], r, s)
  | t :: rest, r, s =>
    let first := make hd t.change r (t.meanwhile s)
    let later := makeAll hd rest first.2.1 first.2.2
    (first.1 :: later.1, later.2)

theorem get?_result_of_not_installs {c : Change} (hc : ¬ c.Installs owner)
    (hnone : r.get? owner = none) :
    (c.result r).get? owner = none := by
  cases c with
  | register owner' new force => rwa [Change.result, Dict.get?_insert_of_ne _ _ (Ne.symm hc)]
  | unregister owner' =>
    by_cases howner : owner = owner'
    · rw [Change.result, howner, Dict.get?_erase_self]
    · rwa [Change.result, Dict.get?_erase_of_ne _ howner]

/-- As long as no handler is installed for an owner that has none, its removal asks for nothing and
succeeds. -/
theorem makeAll_of_absent {turns : List (Turn σ)} (hturns : ∀ t ∈ turns, ¬ t.change.Installs owner)
    (hnone : r.get? owner = none) (s : σ) :
    ∀ made ∈ (makeAll hd turns r s).1, made.change = .unregister owner →
      made.log = [] ∧ made.outcome = .ok () := by
  induction turns generalizing r s with
  | nil => simp [makeAll]
  | cons t rest ih =>
    obtain ⟨ht, hrest⟩ := List.forall_mem_cons.mp hturns
    refine List.forall_mem_cons.mpr ⟨fun hchange => ?_, ih hrest ?_ _⟩
    · have hannounced : t.change.announced r = none := by
        rw [show t.change = _ from hchange]
        exact hnone
      rw [make_of_quiet hannounced]
      exact ⟨rfl, rfl⟩
    · rw [registry_of_make]
      exact get?_result_of_not_installs ht hnone

/-- A removal that fails took the handler out and told no cluster, for want of the list of them.
Whatever is done afterwards, short of installing a handler for the owner, removing it again tells no
cluster and succeeds. -/
theorem failed_removal_untold {e : Failure}
    (hfailed : (make hd (.unregister owner) r s).1.outcome = .error e) :
    let failed := make hd (.unregister owner) r s
    (∃ old, r.get? owner = some old) ∧ failed.1.log = [listing (.error e)] ∧
      ∀ (turns : List (Turn σ)) (s₁ : σ), (∀ t ∈ turns, ¬ t.change.Installs owner) →
        ∀ made ∈ (makeAll hd turns failed.2.1 s₁).1, made.change = .unregister owner →
          made.log = [] ∧ made.outcome = .ok () := by
  intro failed
  have hregistry : failed.2.1 = r.erase owner := registry_of_make hd _ r s
  have hgoes : Goes hd _ r s failed.1.log failed.1.outcome := make_goes hd _ r s
  rw [show failed.1.outcome = _ from hfailed] at hgoes
  rw [hregistry]
  generalize failed.1.log = log at hgoes ⊢
  -- only a listing fails, and by then the handler is gone
  cases hgoes with
  | unlisted hannounced hlisted =>
    exact ⟨⟨_, hannounced⟩, rfl, fun turns s₁ hturns => makeAll_of_absent hturns (by simp) s₁⟩

theorem failed_removal_untold_twoClusters :
    let failed := make twoClusters (.unregister ⟨"n", "o"⟩) oneHandler true
    failed.1.outcome = .error (.api .unreadable) ∧
      ∀ made ∈ (makeAll twoClusters [⟨id, .unregister ⟨"n", "o"⟩⟩] failed.2.1 false).1,
        made.change = .unregister ⟨"n", "o"⟩ → made.log = [] ∧ made.outcome = .ok () := by
  have hfailed : (make twoClusters (.unregister ⟨"n", "o"⟩) oneHandler true).1.outcome =
      .error (.api .unreadable) := rfl
  obtain ⟨-, -, hlater⟩ := failed_removal_untold hfailed
  exact ⟨hfailed, hlater [⟨id, .unregister ⟨"n", "o"⟩⟩] false (by simp [Change.Installs])⟩

/-- The clusters cannot be listed when the handler of `a` is removed. They can be when the removal
is made again and succeeds, but no pass over `a` is asked for. -/
theorem removed_handler_untold :
    let run := makeAll twoClusters
      [⟨fun _ => true, .unregister ⟨"n", "o"⟩⟩, ⟨id, .unregister ⟨"n", "o"⟩⟩] oneHandler false
    (lookup oneHandler (namedCluster "a").key).isSome ∧
      run.1.map Made.outcome = [.error (.api .unreadable), .ok ()] ∧
      (twoClusters (.listClusters none) run.2.2).1 = .ok [namedCluster "a", namedCluster "b"] ∧
      run.1.flatMap (fun made => passesIn made.log) = [] :=
  ⟨rfl, rfl, rfl, rfl⟩

end BrokerFleet.HandlerRegistry
