import BrokerFleet.Proofs.Address.Forms
import BrokerFleet.Proofs.Address.Isolation
import BrokerFleet.Proofs.Address.Leftover

/-! # Attempt after attempt

An attempt that fails may leave some replicas with the address and the queue, some with the address
alone and some with neither, and even a call that was reported as failed may have been carried out.
Whatever comes of the attempts, a broker is only ever in one of its three forms. A success leaves
every replica in the last one, which no further attempt changes. -/

namespace BrokerFleet.AddressSync

/-! ## What a step does to a broker -/

section Steps

variable {σ : Type} {reading : ConfigReading} {h : Handler surroundings σ}
  {brokers : σ → String → Broker} {spec : AddressSpec} {p : QueuePayload} {b : Broker}

/-- A step that gives its replica a form: it does unless it fails, and when it fails it may have.
Other replicas it leaves alone. -/
structure Gives (h : Handler surroundings σ) (brokers : σ → String → Broker) (step : Step)
    (form : Broker → Broker) : Prop where
  again : ∀ b, form (form b) = form b
  apart : ∀ t s fqdn, fqdn ≠ t.fqdn → brokers ((step t).run h s).2 fqdn = brokers s fqdn
  moves : ∀ t s, brokers ((step t).run h s).2 t.fqdn = form (brokers s t.fqdn) ∨
    (brokers ((step t).run h s).2 t.fqdn = brokers s t.fqdn ∧ ((step t).run h s).1 ≠ none)

/-- A step that only brings something to its replica leaves the other replicas alone. -/
theorem apart_of_brings (hb : Brokered reading h brokers) (step : Step) {t : ReplicaTarget}
    (hstep : (step t).Asks fun r : Request => ∃ c, c.brings = true ∧ r = .call t c) {s : σ}
    {fqdn : String} (hne : fqdn ≠ t.fqdn) : brokers ((step t).run h s).2 fqdn = brokers s fqdn := by
  refine hstep.preserves (Q := fun s' => brokers s' fqdn = brokers s fqdn) ?_ rfl
  rintro _ ⟨c, hc, rfl⟩ s' hs'
  rw [hb.apart t c s' fqdn hc hne, hs']

theorem withAddress_of_refuses
    (hthere : b.refuses reading (.createAddress spec.addressName (routing spec)) = true) :
    withAddress spec b = b := by
  have hmem : spec.addressName ∈ b.addresses := by simpa [Broker.refuses] using hthere
  simp [withAddress, Finset.insert_eq_self.mpr hmem]

theorem gives_ensureAddress (hb : Brokered reading h brokers) (spec : AddressSpec) :
    Gives h brokers (ensureAddress spec) (withAddress spec) where
  again := withAddress_withAddress spec
  apart t s fqdn hne :=
    apart_of_brings hb (ensureAddress spec) ⟨⟨_, rfl, rfl⟩, fun _ => trivial⟩ hne
  moves t s := by
    have hserved := hb.served t (.createAddress spec.addressName (routing spec)) s rfl
    rw [ensureAddress, run_callReplica_bind]
    generalize (h (.call t (.createAddress spec.addressName (routing spec))) s).2 = s' at hserved ⊢
    generalize (h (.call t (.createAddress spec.addressName (routing spec))) s).1 = r at hserved ⊢
    cases r with
    | ok v => exact .inl hserved.of_ok.2
    | error e =>
      cases hexists : e.hasCode .addressAlreadyExists with
      | false =>
        have hfailed : failureOf .addressAlreadyExists (.error e) ≠ none := by
          simp [failureOf, hexists]
        exact hserved.eq_or_carryOut.symm.imp_right fun hkept => ⟨hkept, hfailed⟩
      | true =>
        obtain ⟨hthere, hkept⟩ := hserved.of_present hexists
        exact .inl (hkept.trans (withAddress_of_refuses hthere).symm)

/-- A creation that is not refused gives the queue. -/
theorem carryOut_createQueue
    (hfree : b.refuses reading (.createQueue p.config p.ignoreIfExists) = false) :
    b.carryOut reading (.createQueue p.config p.ignoreIfExists) = withQueue reading p b := by
  cases hq : b.queues.get? (reading.queue p.config) with
  | none => simp [Broker.carryOut, Dict.contains, withQueue, queueEntry, hq]
  | some q =>
    have hignore : p.ignoreIfExists = true := by
      simpa [Broker.refuses, Dict.contains, hq] using hfree
    simp [Broker.carryOut, Dict.contains, withQueue, queueEntry, hq, hignore,
      Dict.insert_of_get? hq]

/-- An update where the creation was refused gives the queue. -/
theorem carryOut_updateQueue
    (hthere : b.refuses reading (.createQueue p.config p.ignoreIfExists) = true) :
    b.carryOut reading (.updateQueue p.config) = withQueue reading p b := by
  obtain ⟨hcontains, hignore⟩ : (b.queues.get? (reading.queue p.config)).isSome ∧
      p.ignoreIfExists = false := by
    simpa [Broker.refuses, Dict.contains] using hthere
  obtain ⟨q, hq⟩ := Option.isSome_iff_exists.mp hcontains
  simp [Broker.carryOut, withQueue, queueEntry, hq, hignore]

/-- A creation, refused or not, gives the queue or changes nothing. -/
theorem carryOut_createQueue_or (b : Broker) :
    b.carryOut reading (.createQueue p.config p.ignoreIfExists) = b ∨
      b.carryOut reading (.createQueue p.config p.ignoreIfExists) = withQueue reading p b := by
  cases hrefuses : b.refuses reading (.createQueue p.config p.ignoreIfExists) with
  | false => exact .inr (carryOut_createQueue hrefuses)
  | true =>
    have hcontains : b.queues.contains (reading.queue p.config) = true := by
      simp only [Broker.refuses, Bool.and_eq_true] at hrefuses
      exact hrefuses.1
    exact .inl (by simp [Broker.carryOut, hcontains])

theorem brings_ensureQueue (p : QueuePayload) (t : ReplicaTarget) :
    (ensureQueue p t).Asks fun r : Request => ∃ c, c.brings = true ∧ r = .call t c := by
  refine ⟨⟨_, rfl, rfl⟩, fun created => ?_⟩
  cases created with
  | ok v => trivial
  | error e =>
    change Program.Asks _ (if _ then _ else _)
    split
    · exact ⟨⟨_, rfl, rfl⟩, fun updated => by cases updated <;> trivial⟩
    · trivial

theorem gives_ensureQueue (hb : Brokered reading h brokers) (p : QueuePayload) :
    Gives h brokers (ensureQueue p) (withQueue reading p) where
  again := withQueue_withQueue reading p
  apart t s fqdn hne := apart_of_brings hb (ensureQueue p) (brings_ensureQueue p t) hne
  moves t s := by
    have hcreated := hb.served t (.createQueue p.config p.ignoreIfExists) s rfl
    rw [ensureQueue, run_callReplica_bind]
    generalize (h (.call t (.createQueue p.config p.ignoreIfExists)) s).2 = s' at hcreated ⊢
    generalize (h (.call t (.createQueue p.config p.ignoreIfExists)) s).1 = created at hcreated ⊢
    cases created with
    | ok v =>
      obtain ⟨hfree, hdone⟩ := hcreated.of_ok
      exact .inl (hdone.trans (carryOut_createQueue hfree))
    | error e =>
      cases hexists : e.hasCode .queueAlreadyExists with
      | false =>
        simp only [hexists, Bool.false_eq_true, if_false]
        obtain hkept | hlanded := hcreated.eq_or_carryOut
        · exact .inr ⟨hkept, Option.some_ne_none _⟩
        · exact (carryOut_createQueue_or _).symm.imp hlanded.trans fun hsame =>
            ⟨hlanded.trans hsame, Option.some_ne_none _⟩
      | true =>
        -- the queue is there and is to be updated
        obtain ⟨hthere, hkept⟩ := hcreated.of_present hexists
        have hupdated := hb.served t (.updateQueue p.config) s' rfl
        have hgiven := carryOut_updateQueue hthere
        simp only [hexists, if_true, run_callReplica_bind]
        generalize (h (.call t (.updateQueue p.config)) s').2 = s'' at hupdated ⊢
        generalize (h (.call t (.updateQueue p.config)) s').1 = updated at hupdated ⊢
        rw [hkept] at hupdated
        cases updated with
        | ok v => exact .inl (hupdated.of_ok.2.trans hgiven)
        | error e =>
          obtain hsame | hlanded := hupdated.eq_or_carryOut
          · exact .inr ⟨hsame, Option.some_ne_none _⟩
          · exact .inl (hlanded.trans hgiven)

/-! ## What an attempt does to every broker -/

namespace Gives

variable {step : Step} {form : Broker → Broker} {fqdn : String}

theorem run_apart (hg : Gives h brokers step form) (targets : List ReplicaTarget) (s : σ)
    (hne : ∀ t ∈ targets, t.fqdn ≠ fqdn) :
    brokers ((runStep step targets).run h s).2 fqdn = brokers s fqdn := by
  induction targets generalizing s with
  | nil => rfl
  | cons t rest ih =>
    obtain ⟨ht, hrest⟩ := List.forall_mem_cons.mp hne
    rw [run_runStep_cons, ih _ hrest, hg.apart t s fqdn ht.symm]

/-- Taken on a list of replicas, a step gives the form to every broker, or it leaves the broker as
it was and is done at no replica of its name. -/
theorem run_moves (hg : Gives h brokers step form) (targets : List ReplicaTarget) (s : σ)
    (fqdn : String) :
    brokers ((runStep step targets).run h s).2 fqdn = form (brokers s fqdn) ∨
      (brokers ((runStep step targets).run h s).2 fqdn = brokers s fqdn ∧
        ∀ t, (t, none) ∈ ((runStep step targets).run h s).1 → t.fqdn ≠ fqdn) := by
  induction targets generalizing s with
  | nil => exact .inr ⟨rfl, fun t ht => by cases ht⟩
  | cons t rest ih =>
    have hrest := ih ((step t).run h s).2
    simp only [run_runStep_cons, List.mem_cons]
    by_cases ht : fqdn = t.fqdn
    · subst ht
      obtain hgiven | ⟨hkept, hfailed⟩ := hg.moves t s
      · -- given here, and what follows gives it again or leaves it
        rw [hgiven, hg.again] at hrest
        exact .inl (hrest.elim id And.left)
      · rw [hkept] at hrest
        refine hrest.imp_right fun ⟨hsame, hnone⟩ => ⟨hsame, fun t' ht' => ?_⟩
        exact ht'.elim (fun hfirst => absurd (Prod.mk.inj hfirst).2.symm hfailed) (hnone t')
    · rw [hg.apart t s fqdn ht] at hrest
      refine hrest.imp_right fun ⟨hsame, hnone⟩ => ⟨hsame, fun t' ht' => ?_⟩
      exact ht'.elim (fun hfirst => (Prod.mk.inj hfirst).1 ▸ Ne.symm ht) (hnone t')

end Gives

theorem map_fst_runStep (step : Step) (targets : List ReplicaTarget) (s : σ) :
    ((runStep step targets).run h s).1.map Prod.fst = targets := by
  induction targets generalizing s with
  | nil => rfl
  | cons t rest ih => simp [run_runStep_cons, ih]

theorem mem_of_succeeded {step : Step} {targets : List ReplicaTarget} {s : σ} {t : ReplicaTarget}
    (ht : t ∈ succeeded ((runStep step targets).run h s).1) : t ∈ targets := by
  rw [← map_fst_runStep (h := h) step targets s]
  exact List.mem_map_of_mem (mem_succeeded.mp ht)

/-- Where no step failed, each was done at its target. -/
theorem mem_runStep_of_all {step : Step} {targets : List ReplicaTarget} {s : σ}
    (hall : ∀ o ∈ ((runStep step targets).run h s).1, o.2 = none) {t : ReplicaTarget}
    (ht : t ∈ targets) : (t, none) ∈ ((runStep step targets).run h s).1 := by
  rw [← map_fst_runStep (h := h) step targets s] at ht
  obtain ⟨⟨t, o⟩, ho, rfl⟩ := List.mem_map.mp ht
  obtain rfl : o = none := hall _ ho
  exact ho

theorem isEmpty_foldl_addFailure {cause : String} {unavailable : List UnavailableReplica}
    {outcomes : Outcomes} :
    (outcomes.foldl addFailure (startFailure cause unavailable)).isEmpty ↔
      unavailable = [] ∧ ∀ o ∈ outcomes, o.2 = none := by
  rw [foldl_addFailure_startFailure, isEmpty_reported, List.filterMap_eq_nil_iff]
  simp

/-- Bringing an address to replicas brings every broker some way, those of other replicas nowhere,
and those of the replicas all the way if no failure is collected. -/
theorem ensureOn_moves (hb : Brokered reading h brokers) (spec : AddressSpec)
    (found : ResolvedTargets) (s : σ) (fqdn : String) :
    Advance reading spec (brokers s fqdn) (brokers ((ensureOn spec found).run h s).2 fqdn) ∧
      ((∀ t ∈ found.targets, t.fqdn ≠ fqdn) →
        brokers ((ensureOn spec found).run h s).2 fqdn = brokers s fqdn) ∧
      (((ensureOn spec found).run h s).1.isEmpty = true → (∃ t ∈ found.targets, t.fqdn = fqdn) →
        brokers ((ensureOn spec found).run h s).2 fqdn =
          withDeclared reading spec (brokers s fqdn)) := by
  have haddress := gives_ensureAddress hb spec
  have haddressed := haddress.run_moves found.targets s fqdn
  cases hp : QueuePayload.ofSpec? spec with
  | none =>
    have hdeclared : withDeclared reading spec (brokers s fqdn) =
        withAddress spec (brokers s fqdn) := by
      simp [withDeclared, hp]
    simp only [ensureOn, hp, Program.run_bind, Program.pure_def, Program.run_done, List.append_nil,
      isEmpty_foldl_addFailure]
    refine ⟨?_, fun hne => haddress.run_apart _ _ hne, ?_⟩
    · obtain hgiven | ⟨hkept, -⟩ := haddressed
      · exact hgiven ▸ .address
      · exact hkept ▸ .none
    · rintro ⟨-, hall⟩ ⟨t, ht, rfl⟩
      rw [hdeclared]
      exact haddressed.resolve_right fun hkept => hkept.2 t (mem_runStep_of_all hall ht) rfl
  | some p =>
    have hdeclared : withDeclared reading spec (brokers s fqdn) =
        withQueue reading p (withAddress spec (brokers s fqdn)) := by
      simp [withDeclared, hp]
    have hqueue := gives_ensureQueue hb p
    have hqueued := hqueue.run_moves
      (succeeded ((runStep (ensureAddress spec) found.targets).run h s).1)
      ((runStep (ensureAddress spec) found.targets).run h s).2 fqdn
    simp only [ensureOn, hp, Program.run_bind, Program.pure_def, Program.run_done,
      isEmpty_foldl_addFailure, List.forall_mem_append]
    rw [hdeclared]
    refine ⟨?_, fun hne => ?_, ?_⟩
    · obtain hgiven | ⟨hkept, hnone⟩ := haddressed
      · rw [hgiven, ← hdeclared] at hqueued
        obtain hgiven' | ⟨hkept', -⟩ := hqueued
        · exact hgiven' ▸ .declared
        · exact hkept' ▸ .address
      · -- a broker that was not given the address is not asked for the queue
        rw [hqueue.run_apart _ _ fun t ht => hnone t (mem_succeeded.mp ht), hkept]
        exact .none
    · rw [hqueue.run_apart _ _ fun t ht => hne t (mem_of_succeeded ht), haddress.run_apart _ _ hne]
    · rintro ⟨-, haddressedAll, hqueuedAll⟩ ⟨t, ht, rfl⟩
      have hdone := mem_runStep_of_all haddressedAll ht
      rw [← haddressed.resolve_right fun hkept => hkept.2 t hdone rfl]
      exact hqueued.resolve_right fun hkept =>
        hkept.2 t (mem_runStep_of_all hqueuedAll (mem_succeeded.mpr hdone)) rfl

theorem brokers_replicas (hb : Brokered reading h brokers) (domain ns : String) (spec : AddressSpec)
    (s : σ) : brokers (Task.after h (replicas domain ns spec) s) = brokers s :=
  (ResolvedTargets.reading_resolve domain ns (.ofNames spec.applyToClusterNames)).asks.preserves
    (Q := fun s' => brokers s' = brokers s) (fun r hr s' hs' => (hb.read r hr s').trans hs') rfl

/-- A domain name is that of a replica that an attempt finds. -/
def Finds (h : Handler surroundings σ) (domain ns : String) (spec : AddressSpec) (s : σ)
    (fqdn : String) : Prop :=
  ∃ found, Task.outcome h (replicas domain ns spec) s = .ok found ∧
    ∃ t ∈ found.targets, t.fqdn = fqdn

/-- An attempt that succeeds found replicas, all of them available. -/
theorem found_of_ensure_ok {domain ns : String} {s : σ}
    (hok : Task.outcome h (ensure domain ns spec) s = .ok ()) :
    ∃ found, Task.outcome h (replicas domain ns spec) s = .ok found ∧ found.isEmpty = false ∧
      found.unavailable = [] := by
  cases hfound : Task.outcome h (replicas domain ns spec) s with
  | error e =>
    rw [(ensure_of_error hfound).1] at hok
    cases hok
  | ok found =>
    cases hempty : found.isEmpty with
    | true =>
      obtain ⟨⟨text, hfailed⟩, -⟩ := ensure_of_isEmpty hfound hempty
      rw [hfailed] at hok
      cases hok
    | false =>
      obtain ⟨f, hf, -, hvalue⟩ := ensure_fanOut hfound hempty
      rw [hvalue] at hok
      exact ⟨found, rfl, hempty, ((FanOut.explains hf).ok_iff.mp hok).1⟩

/-- An attempt brings every broker some way, those of replicas that it does not find nowhere, and
those that it finds all the way if it succeeds. -/
theorem ensure_moves (hb : Brokered reading h brokers) (domain ns : String) (spec : AddressSpec)
    (s : σ) (fqdn : String) :
    Advance reading spec (brokers s fqdn) (brokers (Task.after h (ensure domain ns spec) s) fqdn) ∧
      (¬ Finds h domain ns spec s fqdn →
        brokers (Task.after h (ensure domain ns spec) s) fqdn = brokers s fqdn) ∧
      (Task.outcome h (ensure domain ns spec) s = .ok () → Finds h domain ns spec s fqdn →
        brokers (Task.after h (ensure domain ns spec) s) fqdn =
          withDeclared reading spec (brokers s fqdn)) := by
  have hread := brokers_replicas hb domain ns spec s
  cases hfound : Task.outcome h (replicas domain ns spec) s with
  | error e =>
    have hafter : Task.after h (ensure domain ns spec) s =
        Task.after h (replicas domain ns spec) s :=
      Task.after_bind_error _ hfound
    rw [hafter, hread, (ensure_of_error hfound).1]
    exact ⟨.none, fun _ => rfl, nofun⟩
  | ok found =>
    cases hempty : found.isEmpty with
    | true =>
      obtain ⟨⟨text, hfailed⟩, -⟩ := ensure_of_isEmpty hfound hempty
      rw [after_ensure_of_isEmpty hfound hempty, hread, hfailed]
      exact ⟨.none, fun _ => rfl, nofun⟩
    | false =>
      obtain ⟨hadvance, hapart, hdone⟩ :=
        ensureOn_moves hb spec found (Task.after h (replicas domain ns spec) s) fqdn
      rw [after_ensure_of_replicas hfound hempty, (ensure_of_replicas hfound hempty).2,
        outcomeOf_eq_ok_iff, ← hread]
      refine ⟨hadvance, fun hnot => hapart fun t ht hname => hnot ⟨found, hfound, t, ht, hname⟩, ?_⟩
      rintro hok ⟨found', hfound', htarget⟩
      cases hfound.symm.trans hfound'
      exact hdone hok htarget

end Steps

/-! ## Attempts in a row -/

section Attempts

variable {σ : Type} {reading : ConfigReading} {h : Handler surroundings σ}
  {brokers : σ → String → Broker} {domain ns : String} {spec : AddressSpec} {s₀ s s' : σ}

/-- What a number of attempts leads to. Between them anything may happen that leaves the brokers
alone. -/
inductive Attempts (h : Handler surroundings σ) (brokers : σ → String → Broker) (domain ns : String)
    (spec : AddressSpec) (s₀ : σ) : σ → Prop where
  | none : Attempts h brokers domain ns spec s₀ s₀
  | attempt {s : σ} (earlier : Attempts h brokers domain ns spec s₀ s) :
      Attempts h brokers domain ns spec s₀ (Task.after h (ensure domain ns spec) s)
  | meanwhile {s s' : σ} (earlier : Attempts h brokers domain ns spec s₀ s)
      (kept : brokers s' = brokers s) : Attempts h brokers domain ns spec s₀ s'

theorem Attempts.advance (hb : Brokered reading h brokers)
    (hattempts : Attempts h brokers domain ns spec s₀ s) (fqdn : String) :
    Advance reading spec (brokers s₀ fqdn) (brokers s fqdn) := by
  induction hattempts with
  | none => exact .none
  | attempt _ ih => exact ih.trans (ensure_moves hb domain ns spec _ fqdn).1
  | meanwhile _ kept ih => exact kept ▸ ih

/-- After a success no attempt changes a broker that the success found. -/
theorem Attempts.kept (hb : Brokered reading h brokers)
    (hok : Task.outcome h (ensure domain ns spec) s = .ok ()) {fqdn : String}
    (hfound : Finds h domain ns spec s fqdn)
    (hattempts : Attempts h brokers domain ns spec (Task.after h (ensure domain ns spec) s) s') :
    brokers s' fqdn = brokers (Task.after h (ensure domain ns spec) s) fqdn := by
  refine (hattempts.advance hb fqdn).eq_of_declared ?_
  rw [(ensure_moves hb domain ns spec s fqdn).2.2 hok hfound, withDeclared_withDeclared]

/-! ## Attempts without a failure -/

/-- Whether a call was served: it succeeded, or what it creates was there. -/
def served (c : CallRecord) : Bool :=
  match c.answer with
  | .ok _ => true
  | .error e => c.call.saysPresent e

/-- An attempt that finds replicas, none of them unavailable, and all of whose calls are served. -/
structure FailureFree (h : Handler surroundings σ) (domain ns : String) (spec : AddressSpec)
    (s : σ) :
    Prop where
  finds : ∃ found, Task.outcome h (replicas domain ns spec) s = .ok found ∧ found.isEmpty = false ∧
    found.unavailable = []
  served : ∀ c ∈ callsIn (Task.transcript h (ensure domain ns spec) s), served c = true

theorem complete_of_served {targets : List ReplicaTarget} {f : FanOut} (hf : f.Obeys spec targets)
    (hserved : ∀ c ∈ f.calls spec, served c = true) : f.Complete spec targets := by
  rw [FanOut.calls] at hserved
  obtain ⟨haddress, hqueue⟩ := List.forall_mem_append.mp hserved
  have hthere : ∀ a ∈ f.addressed, addressThere a.2 := by
    intro a ha
    have hcall := haddress _ (List.mem_map_of_mem ha)
    obtain ⟨t, v | e⟩ := a
    · exact hcall
    · rfl
  refine ⟨hthere, fun queue hnamed => ?_⟩
  have hdeclared : f.payload.isSome := hf.asked.isSome_iff.mpr ⟨queue, hnamed⟩
  have htargets := hf.queued_targets
  rw [if_pos hdeclared, FanOut.accepted_eq hf hthere] at htargets
  refine ⟨htargets, fun q hq => ?_⟩
  obtain ⟨p, hp⟩ := Option.isSome_iff_exists.mp hdeclared
  rw [hp, Option.elim_some, List.forall_mem_flatMap] at hqueue
  obtain ⟨hcreated, hupdated⟩ := List.forall_mem_cons.mp (hqueue q hq)
  have hiff := hf.updated_iff q hq
  obtain ⟨t, created, updated⟩ := q
  cases created with
  | ok v => rfl
  | error e =>
    -- a creation that was served and failed found the queue, and an update followed
    have hexists : queueExists (.error e) = true := hcreated
    obtain ⟨answer, hanswer⟩ := Option.isSome_iff_exists.mp (hiff.mpr hexists)
    simp only at hanswer
    subst hanswer
    have hanswered := hupdated _ (List.mem_map_of_mem (List.mem_singleton_self answer))
    cases answer with
    | ok v => exact hexists
    | error e' => cases hanswered

theorem ok_of_failureFree (hfree : FailureFree h domain ns spec s) :
    Task.outcome h (ensure domain ns spec) s = .ok () := by
  obtain ⟨found, hfound, hne, havailable⟩ := hfree.finds
  obtain ⟨f, hf, hcalls, hvalue⟩ := ensure_fanOut hfound hne
  have hserved : ∀ c ∈ f.calls spec, served c = true := by
    have hcallsIn := hfree.served
    rwa [hcalls, callsIn_append, callsIn_replicas, callsIn_map_reply, List.nil_append] at hcallsIn
  rw [hvalue]
  exact (FanOut.explains hf).ok_iff.mpr ⟨havailable, complete_of_served hf hserved⟩

/-- However many attempts were made and however they failed, no broker has lost anything or got
anything that is not declared. An attempt that succeeds has brought all that is declared to every
replica, for good: from then on no attempt, failed or not, changes a broker that it found, so an
attempt that finds no other replicas changes none, and it succeeds again unless something fails. -/
theorem ensure_converges (hb : Brokered reading h brokers) (hreads : ReadsDeclared reading spec)
    (hattempts : Attempts h brokers domain ns spec s₀ s) :
    (∀ fqdn, Extends spec (brokers s₀ fqdn) (brokers s fqdn)) ∧
      (Task.outcome h (ensure domain ns spec) s = .ok () →
        ∃ found, Task.outcome h (replicas domain ns spec) s = .ok found ∧
          found.isEmpty = false ∧ found.unavailable = [] ∧
          ∀ s', Attempts h brokers domain ns spec (Task.after h (ensure domain ns spec) s) s' →
            (∀ t ∈ found.targets, Provides spec (brokers s₀ t.fqdn) (brokers s' t.fqdn)) ∧
            (FailureFree h domain ns spec s' → Task.outcome h (ensure domain ns spec) s' = .ok ()) ∧
            ∀ fqdn, (Finds h domain ns spec s' fqdn → ∃ t ∈ found.targets, t.fqdn = fqdn) →
              brokers (Task.after h (ensure domain ns spec) s') fqdn = brokers s' fqdn) := by
  refine ⟨fun fqdn => (hattempts.advance hb fqdn).extends hreads, fun hok => ?_⟩
  obtain ⟨found, hfound, hne, havailable⟩ := found_of_ensure_ok hok
  refine ⟨found, hfound, hne, havailable, fun s' hlater => ⟨?_, ok_of_failureFree, ?_⟩⟩
  · intro t ht
    have hfinds : Finds h domain ns spec s t.fqdn := ⟨found, hfound, t, ht, rfl⟩
    rw [hlater.kept hb hok hfinds, (ensure_moves hb domain ns spec s t.fqdn).2.2 hok hfinds,
      (hattempts.advance hb t.fqdn).withDeclared_eq]
    exact provides_withDeclared hreads _
  · intro fqdn hamong
    by_cases hfinds : Finds h domain ns spec s' fqdn
    · -- the success found the broker, so neither the attempts since nor this one have changed it
      have hfound' : Finds h domain ns spec s fqdn := ⟨found, hfound, hamong hfinds⟩
      rw [hlater.attempt.kept hb hok hfound', hlater.kept hb hok hfound']
    · exact (ensure_moves hb domain ns spec s' fqdn).2.1 hfinds

/-- A broker's word that what a call creates is there. -/
def presentFailure : Call → CallFailure
  | .createAddress _ _ => ⟨"create_address", .remote, "exists", some .addressAlreadyExists⟩
  | _ => ⟨"create_queue", .remote, "exists", some .queueAlreadyExists⟩

/-- Brokers that take every configuration to be of one queue at one address. -/
def oneQueue : ConfigReading := ⟨fun _ => "q", fun _ => "a"⟩

/-- A fleet of one replica whose broker keeps what it is told; as long as the state says so, calls
are carried out but their answers are lost. -/
def keepingReplica : Handler surroundings (Bool × (String → Broker))
  | .call t c, (lossy, bs) =>
    let b := bs t.fqdn
    let carried := Function.update bs t.fqdn (b.carryOut oneQueue c)
    if lossy then (.error (.transport "call" "connection reset"), (false, carried))
    else if b.refuses oneQueue c then (.error (presentFailure c), (false, bs))
    else (.ok .null, (false, carried))
  | r, s => ((AddressLifecycle.oneReplica r ()).1, s)

theorem saysPresent_of_refuses {b : Broker} {c : Call} (hrefuses : b.refuses oneQueue c = true) :
    c.saysPresent (presentFailure c) = true := by
  cases c with
  | createAddress name routing => rfl
  | createQueue config ignoreIfExists => rfl
  | _ => cases hrefuses

theorem brokered_keepingReplica : Brokered oneQueue keepingReplica Prod.snd where
  served t c s hc := by
    obtain ⟨lossy, bs⟩ := s
    have hcarried : Function.update bs t.fqdn ((bs t.fqdn).carryOut oneQueue c) t.fqdn =
        (bs t.fqdn).carryOut oneQueue c := Function.update_self ..
    cases lossy with
    | true =>
      have hlost : c.saysPresent (.transport "call" "connection reset") = false := by
        cases c <;> rfl
      simp only [keepingReplica, if_true, hcarried]
      exact .landed _ hlost
    | false =>
      cases hrefuses : (bs t.fqdn).refuses oneQueue c with
      | true =>
        simp only [keepingReplica, hrefuses, Bool.false_eq_true, if_false, if_true]
        exact .refused _ hrefuses (saysPresent_of_refuses hrefuses)
      | false =>
        simp only [keepingReplica, hrefuses, Bool.false_eq_true, if_false, hcarried]
        exact .done _ hrefuses
  apart t c s fqdn hc hne := by
    obtain ⟨lossy, bs⟩ := s
    simp only [keepingReplica]
    split
    · exact Function.update_of_ne hne ..
    · split
      · rfl
      · exact Function.update_of_ne hne ..
  read r hr s := by
    cases r <;> first | rfl | cases hr

theorem readsDeclared_oneQueue : ReadsDeclared oneQueue queuedAddress := by
  intro queue p hnamed _
  obtain rfl : "q" = queue := Option.some.inj hnamed.1
  exact ⟨rfl, rfl⟩

/-- Empty brokers, the next call to one of which is answered in vain. -/
def emptyBrokers : Bool × (String → Broker) := (true, fun _ => ⟨∅, ∅⟩)

/-- What an attempt leaves of empty brokers: the address, and its failure to report. -/
def halfBrought : Bool × (String → Broker) :=
  Task.after keepingReplica (ensure "local" "n" queuedAddress) emptyBrokers

theorem ok_halfBrought :
    Task.outcome keepingReplica (ensure "local" "n" queuedAddress) halfBrought = .ok () := rfl

/-- The first attempt gives an empty broker the address and fails, as the answer is lost; the second
gives it the queue, for good. -/
theorem ensure_converges_keepingReplica :
    (Task.outcome keepingReplica (ensure "local" "n" queuedAddress) emptyBrokers).isOk = false ∧
      (∀ fqdn, Extends queuedAddress (emptyBrokers.2 fqdn) (halfBrought.2 fqdn)) ∧
      Task.outcome keepingReplica (ensure "local" "n" queuedAddress) halfBrought = .ok () ∧
      ∃ found, Task.outcome keepingReplica (replicas "local" "n" queuedAddress) halfBrought =
        .ok found ∧
        found.isEmpty = false ∧ found.unavailable = [] ∧
        ∀ s', Attempts keepingReplica Prod.snd "local" "n" queuedAddress
            (Task.after keepingReplica (ensure "local" "n" queuedAddress) halfBrought) s' →
          (∀ t ∈ found.targets, Provides queuedAddress (emptyBrokers.2 t.fqdn) (s'.2 t.fqdn)) ∧
          (FailureFree keepingReplica "local" "n" queuedAddress s' →
            Task.outcome keepingReplica (ensure "local" "n" queuedAddress) s' = .ok ()) ∧
          ∀ fqdn, (Finds keepingReplica "local" "n" queuedAddress s' fqdn →
              ∃ t ∈ found.targets, t.fqdn = fqdn) →
            (Task.after keepingReplica (ensure "local" "n" queuedAddress) s').2 fqdn =
              s'.2 fqdn := by
  have hattempts : Attempts keepingReplica Prod.snd "local" "n" queuedAddress emptyBrokers
      halfBrought :=
    .attempt .none
  obtain ⟨hextends, hok⟩ :=
    ensure_converges brokered_keepingReplica readsDeclared_oneQueue hattempts
  exact ⟨rfl, hextends, ok_halfBrought, hok ok_halfBrought⟩

end Attempts

end BrokerFleet.AddressSync
