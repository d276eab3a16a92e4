import Mathlib.Data.List.Forall2
import BrokerFleet.Proofs.ApiServer.Footprint

/-! # How provisioning goes

One planned object is looked at and then written, unless something is in the way: a request that
cannot be made, a failed answer, or the label of another manager on what is there. Provisioning goes
through the planned objects like this, and what is in the way at one of them ends it. -/

namespace BrokerFleet

/-! ## Whom an object belongs to -/

/-- An object carries the label of a manager other than the operator. -/
def Foreign (m : Metadata) : Prop := ∃ other, m.label? managerLabel = some other ∧ other ≠ manager

theorem verifyOwnership_eq_ok_iff {m : Metadata} : verifyOwnership m = .ok () ↔ ¬ Foreign m := by
  unfold verifyOwnership Foreign
  cases m.label? managerLabel with
  | none => simp
  | some other => by_cases hother : other = manager <;> simp [hother]

theorem foreign_of_verifyOwnership {m : Metadata} {e : Failure} (h : verifyOwnership m = .error e) :
    Foreign m := by
  refine Classical.byContradiction fun hown => ?_
  rw [verifyOwnership_eq_ok_iff.mpr hown] at h
  cases h

/-! ## Requests about one object -/

namespace ApiRequest

theorem method_of_draft {method : ApiMethod} {text : String} {content : Option (String × Json)}
    {r : ApiRequest} (h : draft method text content = .ok r) : r.method = method := by
  unfold draft at h
  split at h
  · cases h
    rfl
  · cases h

/-- What is looked at and what is written stand at the same path, whatever the name of the object
is. -/
theorem path_eq {c : ApiCollection} {key : ObjectKey} {document : Json} {look write : ApiRequest}
    (hlook : get c key = .ok look) (hwrite : apply c key document = .ok write) :
    look.target.path = write.target.path := by
  rw [path_of_draft (of_about hlook), path_of_draft (of_about hwrite), Http.Target.split_targetText]

end ApiRequest

namespace ApiServer

/-- What the answer to a look at a planned object says of it. -/
def seen (o : PlannedObject) (a : ApiAnswer) : Except ApiFailure (Option Metadata) :=
  orAbsent (·.hasReason "NotFound") (a.decode (metadataOf o.shape))

def LooksAt (o : PlannedObject) (r : ApiRequest) : Prop := ApiRequest.get o.collection o.key = .ok r

def Writes (o : PlannedObject) (r : ApiRequest) : Prop :=
  ApiRequest.apply o.collection o.key o.document = .ok r

/-- What was seen of an object does not keep the operator from writing it. -/
def Unclaimed (existing : Option Metadata) : Prop := ∀ m, existing = some m → ¬ Foreign m

/-- The ways in which the visit to a planned object can go, with the requests and their answers: it
ends at what is in the way, or the object is written. -/
inductive Visit (o : PlannedObject) : List apiServer.Reply → Except Failure Unit → Prop where
  | unasked {e : ApiFailure} (hlook : ApiRequest.get o.collection o.key = .error e) :
      Visit o [] (.error (.api e))
  | unseen {look : ApiRequest} {a : ApiAnswer} {e : ApiFailure}
      (hlook : LooksAt o look) (hseen : seen o a = .error e) :
      Visit o [⟨look, a⟩] (.error (.api e))
  | claimed {look : ApiRequest} {a : ApiAnswer} {m : Metadata} {e : Failure}
      (hlook : LooksAt o look) (hseen : seen o a = .ok (some m)) (hforeign : Foreign m)
      (hrefused : verifyOwnership m = .error e) :
      Visit o [⟨look, a⟩] (.error e)
  | unwritable {look : ApiRequest} {a : ApiAnswer} {existing : Option Metadata} {e : ApiFailure}
      (hlook : LooksAt o look) (hseen : seen o a = .ok existing) (hfree : Unclaimed existing)
      (hwrite : ApiRequest.apply o.collection o.key o.document = .error e) :
      Visit o [⟨look, a⟩] (.error (.api e))
  | refused {look write : ApiRequest} {a b : ApiAnswer} {existing : Option Metadata}
      {e : ApiFailure}
      (hlook : LooksAt o look) (hseen : seen o a = .ok existing) (hfree : Unclaimed existing)
      (hwrite : Writes o write) (hrefused : b.decode (metadataOf o.shape) = .error e) :
      Visit o [⟨look, a⟩, ⟨write, b⟩] (.error (.api e))
  | written {look write : ApiRequest} {a b : ApiAnswer} {existing : Option Metadata} {m : Metadata}
      (hlook : LooksAt o look) (hseen : seen o a = .ok existing) (hfree : Unclaimed existing)
      (hwrite : Writes o write) (haccepted : b.decode (metadataOf o.shape) = .ok m) :
      Visit o [⟨look, a⟩, ⟨write, b⟩] (.ok ())

/-- The visits to planned objects in their order, up to one that fails. -/
inductive Passage : List PlannedObject → List apiServer.Reply → Except Failure Unit → Prop where
  | done : Passage [] [] (.ok ())
  | stopped {o : PlannedObject} {rest : List PlannedObject} {log : List apiServer.Reply}
      {e : Failure} (hvisit : Visit o log (.error e)) : Passage (o :: rest) log (.error e)
  | next {o : PlannedObject} {rest : List PlannedObject} {log log' : List apiServer.Reply}
      {outcome : Except Failure Unit} (hvisit : Visit o log (.ok ()))
      (hrest : Passage rest log' outcome) :
      Passage (o :: rest) (log ++ log') outcome

/-! ## Tasks of the API server -/

/-- A task runs from a state, asks, and comes to an outcome and a state. -/
structure Runs {α σ : Type} (h : Handler apiServer σ) (t : ApiTask α) (s : σ)
    (log : List apiServer.Reply) (outcome : Except Failure α) (s' : σ) : Prop where
  asked : t.run.transcript h s = log
  comesTo : t.run.run h s = (outcome, s')

namespace Runs

variable {α β σ : Type} {h : Handler apiServer σ} {t : ApiTask α} {f : α → ApiTask β} {s s' s'' : σ}
  {log log' : List apiServer.Reply}

/-- An outcome that is known asks nothing. -/
theorem known (h : Handler apiServer σ) {r outcome : Except Failure α} (hr : r = outcome) (s : σ) :
    Runs h (ExceptT.mk (pure r)) s [] outcome s := ⟨rfl, congrArg (·, s) hr⟩

theorem bind {a : α} {outcome : Except Failure β} (ht : Runs h t s log (.ok a) s')
    (hf : Runs h (f a) s' log' outcome s'') : Runs h (t >>= f) s (log ++ log') outcome s'' := by
  constructor
  · rw [ExceptT.run_bind, Program.transcript_bind, ht.asked, ht.comesTo]
    exact congrArg (log ++ ·) hf.asked
  · rw [ExceptT.run_bind, Program.run_bind, ht.comesTo]
    exact hf.comesTo

theorem bind_error {e : Failure} (ht : Runs h t s log (.error e) s') :
    Runs h (t >>= f) s log (.error e) s' := by
  constructor
  · rw [ExceptT.run_bind, Program.transcript_bind, ht.asked, ht.comesTo]
    exact List.append_nil log
  · rw [ExceptT.run_bind, Program.run_bind, ht.comesTo]
    rfl

end Runs

section Steps

variable {α σ : Type} (h : Handler apiServer σ)

/-- A request that cannot be made is not for want of the object. -/
theorem hasReason_of_get {c : ApiCollection} {key : ObjectKey} {e : ApiFailure}
    (hget : ApiRequest.get c key = .error e) (reason : String) : e.hasReason reason = false := by
  unfold ApiRequest.get ApiRequest.about ApiRequest.draft at hget
  split at hget
  · cases hget
    rfl
  · dsimp only at hget
    split at hget <;> cases hget
    rfl

theorem runs_look_of_error (o : PlannedObject) {e : ApiFailure}
    (hlook : ApiRequest.get o.collection o.key = .error e) (s : σ) :
    Runs h (find? o.collection (metadataOf o.shape) o.key) s [] (.error (.api e)) s := by
  have hpresent : orAbsent (·.hasReason "NotFound") (.error e : Except ApiFailure Metadata) =
      .error e := by
    simp [orAbsent, hasReason_of_get hlook]
  rw [find?, hlook, send]
  exact ⟨rfl, congrArg (fun r : Except ApiFailure (Option Metadata) => (r.mapError Failure.api, s))
    hpresent⟩

theorem runs_look (o : PlannedObject) {look : ApiRequest} (hlook : LooksAt o look) (s : σ) :
    Runs h (find? o.collection (metadataOf o.shape) o.key) s [⟨look, (h look s).1⟩]
      ((seen o (h look s).1).mapError Failure.api) (h look s).2 := by
  rw [find?, hlook]
  exact ⟨rfl, rfl⟩

theorem runs_write_of_error {r : Except ApiFailure ApiRequest} {e : ApiFailure} (hr : r = .error e)
    (d : Json.Decoder α) (s : σ) : Runs h (task (send r d)) s [] (.error (.api e)) s := by
  subst hr
  exact ⟨rfl, rfl⟩

theorem runs_write {r : Except ApiFailure ApiRequest} {write : ApiRequest} (hr : r = .ok write)
    (d : Json.Decoder α) (s : σ) : Runs h (task (send r d)) s [⟨write, (h write s).1⟩]
      (((h write s).1.decode d).mapError Failure.api) (h write s).2 := by
  subst hr
  exact ⟨rfl, rfl⟩

/-- Writes an object, whoever manages it. -/
def write (o : PlannedObject) : ApiTask Unit := do
  let _ ← task (send (ApiRequest.apply o.collection o.key o.document) (metadataOf o.shape))

/-- Whether what was seen of an object lets the operator write it. -/
def check (existing : Option Metadata) : Except Failure Unit :=
  existing.elim (.ok ()) verifyOwnership

theorem apply_eq (o : PlannedObject) :
    apply o = find? o.collection (metadataOf o.shape) o.key >>= fun existing =>
      ExceptT.mk (pure (check existing)) >>= fun _ => write o := by
  unfold apply
  congr 1
  funext existing
  cases existing <;> rfl

theorem unclaimed_of_check {existing : Option Metadata} (h : check existing = .ok ()) :
    Unclaimed existing := by
  rintro m rfl
  exact verifyOwnership_eq_ok_iff.mp h

/-- An object that is not claimed by what was seen of it is written, if it can be. -/
theorem exists_write {o : PlannedObject} {look : ApiRequest} {a : ApiAnswer}
    {existing : Option Metadata} (hlook : LooksAt o look) (hseen : seen o a = .ok existing)
    (hfree : Unclaimed existing) (s : σ) :
    ∃ log outcome s', Runs h (write o) s log outcome s' ∧ Visit o (⟨look, a⟩ :: log) outcome := by
  unfold write
  cases hwrite : ApiRequest.apply o.collection o.key o.document with
  | error e =>
    exact ⟨_, _, _, (runs_write_of_error h rfl _ s).bind_error,
      .unwritable hlook hseen hfree hwrite⟩
  | ok write =>
    have hsent := runs_write h (r := .ok write) rfl (metadataOf o.shape) s
    cases haccepted : (h write s).1.decode (metadataOf o.shape) with
    | error e =>
      rw [haccepted] at hsent
      exact ⟨_, _, _, hsent.bind_error, .refused hlook hseen hfree hwrite haccepted⟩
    | ok m =>
      rw [haccepted] at hsent
      exact ⟨_, _, _, hsent.bind (.known h rfl _), .written hlook hseen hfree hwrite haccepted⟩

/-- Writing one planned object is a visit to it. -/
theorem exists_visit (o : PlannedObject) (s : σ) :
    ∃ log outcome s', Runs h (apply o) s log outcome s' ∧ Visit o log outcome := by
  rw [apply_eq]
  cases hlook : ApiRequest.get o.collection o.key with
  | error e => exact ⟨_, _, _, (runs_look_of_error h o hlook s).bind_error, .unasked hlook⟩
  | ok look =>
    have hread := runs_look h o hlook s
    cases hseen : seen o (h look s).1 with
    | error e =>
      rw [hseen] at hread
      exact ⟨_, _, _, hread.bind_error, .unseen hlook hseen⟩
    | ok existing =>
      -- what was seen is checked, and only then the request to write is made
      rw [hseen] at hread
      cases hcheck : check existing with
      | error e =>
        cases existing with
        | none => cases hcheck
        | some m =>
          exact ⟨_, _, _, hread.bind (Runs.known h hcheck _).bind_error,
            .claimed hlook hseen (foreign_of_verifyOwnership hcheck) hcheck⟩
      | ok u =>
        obtain ⟨log, outcome, s', hruns, hvisit⟩ :=
          exists_write h hlook hseen (unclaimed_of_check hcheck) (h look s).2
        exact ⟨_, _, _, hread.bind ((Runs.known h hcheck _).bind hruns), hvisit⟩

/-- Writing planned objects is a passage through them. -/
theorem exists_passage (planned : List PlannedObject) (s : σ) :
    ∃ log outcome s', Runs h (planned.forM apply) s log outcome s' ∧
    Passage planned log outcome := by
  induction planned generalizing s with
  | nil => exact ⟨_, _, _, .known h rfl s, .done⟩
  | cons o rest ih =>
    obtain ⟨log, outcome, s', hruns, hvisit⟩ := exists_visit h o s
    cases outcome with
    | error e => exact ⟨_, _, _, hruns.bind_error, .stopped hvisit⟩
    | ok u =>
      obtain ⟨log', outcome, s'', hrest, hpassage⟩ := ih s'
      exact ⟨_, _, _, hruns.bind hrest, .next hvisit hpassage⟩

end Steps

/-! ## What was written -/

def writesIn (log : List apiServer.Reply) : List apiServer.Reply :=
  log.filter fun x => x.1.method = .patch

/-- A planned object was written: the request was made and accepted. -/
def Accepted (o : PlannedObject) (x : apiServer.Reply) : Prop :=
  Writes o x.1 ∧ ∃ m, ApiAnswer.decode (metadataOf o.shape) x.2 = .ok m

/-- A write of a planned object comes right after a look at the same place, which saw nothing there
or an object that no other manager claims. -/
def Guarded (o : PlannedObject) (before : List apiServer.Reply) (write : ApiRequest) : Prop :=
  ∃ earlier look a existing, before = earlier ++ [⟨look, a⟩] ∧ LooksAt o look ∧
    look.target.path = write.target.path ∧ seen o a = .ok existing ∧ Unclaimed existing

section Written

variable {o : PlannedObject} {r : ApiRequest} {a : ApiAnswer} {log log' : List apiServer.Reply}
  {outcome : Except Failure Unit}

theorem LooksAt.method (h : LooksAt o r) : r.method = .get :=
  ApiRequest.method_of_draft (ApiRequest.of_about h)

theorem Writes.method (h : Writes o r) : r.method = .patch :=
  ApiRequest.method_of_draft (ApiRequest.of_about h)

theorem writesIn_append : writesIn (log ++ log') = writesIn log ++ writesIn log' :=
  List.filter_append ..

theorem LooksAt.writesIn (h : LooksAt o r) : writesIn (⟨r, a⟩ :: log) = writesIn log := by
  simp [ApiServer.writesIn, h.method]

theorem Writes.writesIn (h : Writes o r) : writesIn (⟨r, a⟩ :: log) = ⟨r, a⟩ :: writesIn log := by
  simp [ApiServer.writesIn, h.method]

/-- A visit that goes well writes the object. -/
theorem Visit.accepted (h : Visit o log (.ok ())) : ∃ x, writesIn log = [x] ∧ Accepted o x := by
  cases h with
  | written hlook hseen hfree hwrite haccepted =>
    exact ⟨_, by rw [hlook.writesIn, hwrite.writesIn]; rfl, hwrite, _, haccepted⟩

/-- A visit that fails has written nothing, or tried to write the object in vain. -/
theorem Visit.failed {e : Failure} (h : Visit o log (.error e)) :
    writesIn log = [] ∨ ∃ x, writesIn log = [x] ∧ Writes o x.1 ∧ ¬ Accepted o x := by
  cases h with
  | unasked hlook => exact .inl rfl
  | unseen hlook hseen => exact .inl hlook.writesIn
  | claimed hlook hseen hforeign hrefused => exact .inl hlook.writesIn
  | unwritable hlook hseen hfree hwrite => exact .inl hlook.writesIn
  | refused hlook hseen hfree hwrite hrefused =>
    refine .inr ⟨_, by rw [hlook.writesIn, hwrite.writesIn]; rfl, hwrite, ?_⟩
    rintro ⟨-, m, haccepted⟩
    cases hrefused.symm.trans haccepted

/-- A write among requests that begin with a look comes after that look. -/
theorem LooksAt.before_write (h : LooksAt o r) {before after : List apiServer.Reply}
    {write : apiServer.Reply} (hlog : (⟨r, a⟩ : apiServer.Reply) :: log = before ++ write :: after)
    (hpatch : write.1.method = .patch) :
    ∃ between, before = ⟨r, a⟩ :: between ∧ log = between ++ write :: after := by
  cases before with
  | nil =>
    obtain ⟨rfl, -⟩ := List.cons.inj hlog
    cases h.method.symm.trans hpatch
  | cons x between =>
    obtain ⟨rfl, hrest⟩ := List.cons.inj hlog
    exact ⟨between, rfl, hrest⟩

theorem guarded_of_writes {look write : ApiRequest} {b : ApiAnswer} {existing : Option Metadata}
    (hlook : LooksAt o look) (hseen : seen o a = .ok existing) (hfree : Unclaimed existing)
    (hwrite : Writes o write) {before after : List apiServer.Reply} {x : apiServer.Reply}
    (hlog : [(⟨look, a⟩ : apiServer.Reply), ⟨write, b⟩] = before ++ x :: after)
    (hpatch : x.1.method = .patch) :
    Writes o x.1 ∧ Guarded o before x.1 := by
  obtain ⟨between, rfl, hlast⟩ := hlook.before_write hlog hpatch
  obtain ⟨rfl, hx⟩ : between = [] ∧ (⟨write, b⟩ : apiServer.Reply) = x := by
    cases between with
    | nil => exact ⟨rfl, (List.cons.inj hlast).1⟩
    | cons y rest => simp at hlast
  subst hx
  exact ⟨hwrite, [], look, a, existing, rfl, hlook, ApiRequest.path_eq hlook hwrite, hseen, hfree⟩

theorem Guarded.after {before : List apiServer.Reply} {write : ApiRequest}
    (h : Guarded o before write) (log : List apiServer.Reply) :
    Guarded o (log ++ before) write := by
  obtain ⟨earlier, look, a, existing, rfl, hlook⟩ := h
  exact ⟨log ++ earlier, look, a, existing, (List.append_assoc ..).symm, hlook⟩

/-- Whatever a visit writes is its object, which it has just looked at. -/
theorem Visit.guarded (h : Visit o log outcome) {before after : List apiServer.Reply}
    {x : apiServer.Reply} (hlog : log = before ++ x :: after) (hpatch : x.1.method = .patch) :
    Writes o x.1 ∧ Guarded o before x.1 := by
  have hlookOnly {look : ApiRequest} {a : ApiAnswer} (hlook : LooksAt o look)
      (hlog : [(⟨look, a⟩ : apiServer.Reply)] = before ++ x :: after) :
      Writes o x.1 ∧ Guarded o before x.1 := by
    obtain ⟨between, -, hnone⟩ := hlook.before_write hlog hpatch
    simp at hnone
  cases h with
  | unasked hlook => simp at hlog
  | unseen hlook hseen => exact hlookOnly hlook hlog
  | claimed hlook hseen hforeign hrefused => exact hlookOnly hlook hlog
  | unwritable hlook hseen hfree hwrite => exact hlookOnly hlook hlog
  | refused hlook hseen hfree hwrite hrefused =>
    exact guarded_of_writes hlook hseen hfree hwrite hlog hpatch
  | written hlook hseen hfree hwrite haccepted =>
    exact guarded_of_writes hlook hseen hfree hwrite hlog hpatch

end Written

/-! ## The whole course -/

/-- How provisioning goes. Its writes are those of the first planned objects, one for each and in
their order; it comes to success exactly if every planned object was written; a write comes right
after a look at the same place that found it unclaimed; and a failure is that of the first visit
that fails, which is the last. -/
structure Provisioned (planned : List PlannedObject) (log : List apiServer.Reply)
    (outcome : Except Failure Unit) :
    Prop where
  in_order : ∃ tried, tried <+: planned ∧ List.Forall₂ (fun o x => Writes o x.1) tried
    (writesIn log)
  ok_iff : outcome = .ok () ↔ List.Forall₂ Accepted planned (writesIn log)
  guarded : ∀ before x after, log = before ++ x :: after → x.1.method = .patch →
    ∃ o ∈ planned, Writes o x.1 ∧ Guarded o before x.1
  stops : ∀ e, outcome = .error e → ∃ passed o rest earlier last, planned = passed ++ o :: rest ∧
    log = earlier ++ last ∧ Passage passed earlier (.ok ()) ∧ Visit o last (.error e)

theorem Passage.provisioned {planned : List PlannedObject} {log : List apiServer.Reply}
    {outcome : Except Failure Unit} (h : Passage planned log outcome) :
    Provisioned planned log outcome := by
  induction h with
  | done => exact ⟨⟨[], List.nil_prefix, .nil⟩, by simp [writesIn], by simp, nofun⟩
  | @stopped o rest log e hvisit =>
    constructor
    case in_order =>
      rcases hvisit.failed with hnone | ⟨x, hone, hwrite, -⟩
      · exact ⟨[], List.nil_prefix, hnone ▸ .nil⟩
      · exact ⟨[o], ⟨rest, rfl⟩, hone ▸ .cons hwrite .nil⟩
    case ok_iff =>
      refine ⟨nofun, fun hall => ?_⟩
      rcases hvisit.failed with hnone | ⟨x, hone, -, hleft⟩
      · rw [hnone] at hall
        cases hall
      · rw [hone] at hall
        cases hall with
        | cons haccepted _ => exact absurd haccepted hleft
    case guarded =>
      intro before x after hlog hpatch
      exact ⟨o, List.mem_cons_self, hvisit.guarded hlog hpatch⟩
    case stops =>
      rintro e ⟨⟩
      exact ⟨[], o, rest, [], log, rfl, rfl, .done, hvisit⟩
  | @next o rest log log' outcome hvisit hrest ih =>
    obtain ⟨x, hone, haccepted⟩ := hvisit.accepted
    have hwrites : writesIn (log ++ log') = x :: writesIn log' := by rw [writesIn_append, hone]; rfl
    constructor
    case in_order =>
      obtain ⟨tried, hprefix, hall⟩ := ih.in_order
      exact ⟨o :: tried, List.cons_prefix_cons.mpr ⟨rfl, hprefix⟩, hwrites ▸ .cons haccepted.1 hall⟩
    case ok_iff =>
      rw [hwrites, List.forall₂_cons, ih.ok_iff]
      exact (and_iff_right haccepted).symm
    case guarded =>
      intro before y after hlog hpatch
      rcases place_of_append hlog with ⟨middle, hnow⟩ | ⟨before', rfl, hlater⟩
      · exact ⟨o, List.mem_cons_self, hvisit.guarded hnow hpatch⟩
      · obtain ⟨o', ho', hwrite, hguarded⟩ := ih.guarded before' y after hlater hpatch
        exact ⟨o', List.mem_cons_of_mem o ho', hwrite, hguarded.after log⟩
    case stops =>
      intro e he
      obtain ⟨passed, o', rest', earlier, last, rfl, rfl, hpassed, hlast⟩ := ih.stops e he
      exact ⟨o :: passed, o', rest', log ++ earlier, last, rfl, (List.append_assoc ..).symm,
        .next hvisit hpassed, hlast⟩

/-- A cluster with a name and a namespace is provisioned object after object: the headless service,
the ping service, the stateful set and, if one is declared, the disruption budget. -/
theorem provision_provisioned {σ : Type} (h : Handler apiServer σ) {c : Cluster}
    (handler : Option ConfigHandler) {name ns : String} (hname : c.metadata.name = some name)
    (hns : c.metadata.ns = some ns) (s : σ) :
    let plan : WorkloadPlan := ⟨c, ns⟩
    ((plan.objects handler).map fun o => (o.collection, o.key, o.document)) =
        [(.services, ⟨ns, plan.names.headlessService⟩, plan.headlessService.toJson),
          (.services, ⟨ns, plan.names.pingService⟩, plan.pingService.toJson),
          (.statefulSets, ⟨ns, plan.names.statefulSet⟩, (plan.statefulSet handler).toJson)] ++
        (plan.disruptionBudget?.map fun b =>
          (.disruptionBudgets, ⟨ns, plan.names.cluster ++ "-pdb"⟩, b.toJson)).toList ∧
      (plan.disruptionBudget?.isSome ↔ c.spec.deploymentPlan.podDisruptionBudget.isSome) ∧
      Provisioned (plan.objects handler) ((provision c handler).run.transcript h s)
        ((provision c handler).run.run h s).1 := by
  intro plan
  have hplan : WorkloadPlan.ofCluster c = .ok plan := by
    unfold WorkloadPlan.ofCluster
    rw [hname, hns]
  have hprovision : provision c handler = (plan.objects handler).forM apply := by
    unfold provision
    rw [hplan]
    rfl
  obtain ⟨log, outcome, s', hruns, hpassage⟩ := exists_passage h (plan.objects handler) s
  refine ⟨?_, by simp [WorkloadPlan.disruptionBudget?, plan], ?_⟩
  · unfold WorkloadPlan.objects
    cases hbudget : plan.disruptionBudget? with
    | none => rfl
    | some b =>
      obtain ⟨declared, -, rfl⟩ := Option.map_eq_some_iff.mp hbudget
      rfl
  · rw [hprovision, hruns.asked, hruns.comesTo]
    exact hpassage.provisioned

/-- An API server that has no services, accepts every write, and has a stateful set of another
manager. -/
def claimedSet : Handler apiServer Unit := fun r s =>
  let answer : ApiAnswer :=
    if r.method = .patch then ⟨200, "\x7b\"metadata\":\x7b\x7d\x7d"⟩
    else if r.target.path = ApiCollection.statefulSets.objectPath ⟨"ns", "broker-ss"⟩ then
      ⟨200,
        "\x7b\"metadata\":\x7b\"labels\":\x7b\"app.kubernetes.io/managed-by\":\"helm\"\x7d\x7d\x7d"⟩
    else ⟨404, "\x7b\"status\":\"Failure\",\"reason\":\"NotFound\",\"code\":404\x7d"⟩
  (answer, s)

def bareCluster : Cluster := { metadata := { name := some "broker", ns := some "ns" }, spec := {} }

theorem provision_provisioned_claimedSet :
    let plan : WorkloadPlan := ⟨bareCluster, "ns"⟩
    let log := (provision bareCluster none).run.transcript claimedSet ()
    let outcome := ((provision bareCluster none).run.run claimedSet ()).1
    bareCluster.metadata.name = some "broker" ∧ bareCluster.metadata.ns = some "ns" ∧
      Provisioned (plan.objects none) log outcome ∧
      (writesIn log).map (fun x => x.1.target.path) =
        [ApiCollection.services.objectPath ⟨"ns", "broker-hdls-svc"⟩,
          ApiCollection.services.objectPath ⟨"ns", "broker-ping-svc"⟩] ∧
      outcome.isOk = false :=
  ⟨rfl, rfl, (provision_provisioned claimedSet none rfl rfl ()).2.2, by decide +kernel⟩

end ApiServer

end BrokerFleet
