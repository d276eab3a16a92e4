import BrokerFleet.Cluster.Pass
import BrokerFleet.Proofs.Program.Task
import BrokerFleet.Proofs.Store.Reading

/-! # What the checks and the observation of a cluster ask

They look at pods, secrets and config maps and at nothing else, and fail only with a failure that
the store answered. -/

namespace BrokerFleet

/-- Whether a request looks at what a cluster mounts or runs. -/
def Request.looksAround : Request → Bool
  | .listPods _ _ | .getSecret _ | .getConfigMap _ => true
  | _ => false

/-- A course that only looks around, until a look fails. -/
structure Inspecting {α : Type} (c : Course (Except Failure α)) : Prop where
  reading : Reading c
  asks : c.Asks fun r : Request => r.looksAround = true

namespace Inspecting

variable {α β : Type}

/-! ## How such courses are made -/

theorem bind {t : Task α} {f : α → Task β} (ht : Inspecting t.run)
    (hf : ∀ a, Inspecting (f a).run) :
    Inspecting (t >>= f).run :=
  ⟨ht.reading.bind fun a => (hf a).reading, Task.asks_bind ht.asks fun a => (hf a).asks⟩

theorem pure (a : α) : Inspecting (Pure.pure a : Task α).run := ⟨.pure a, trivial⟩

theorem map {t : Task α} (f : α → β) (ht : Inspecting t.run) : Inspecting (f <$> t).run := by
  rw [map_eq_pure_bind]
  exact ht.bind fun a => .pure (f a)

theorem mapM {f : α → Task β} (hf : ∀ a, Inspecting (f a).run) (l : List α) :
    Inspecting (l.mapM f).run := by
  induction l with
  | nil => exact .pure []
  | cons a rest ih =>
    rw [List.mapM_cons]
    exact (hf a).bind fun b => ih.bind fun bs => .pure (b :: bs)

theorem getSecret (key : ObjectKey) : Inspecting (Task.getSecret key).run :=
  ⟨.getSecret key, rfl, fun _ => trivial⟩

theorem getConfigMap (key : ObjectKey) : Inspecting (Task.getConfigMap key).run :=
  ⟨.request (r := .getConfigMap key) rfl id (by rintro (_ | _) _ h <;> cases h; rfl)
    (by rintro (_ | map) h <;> cases h; exact ⟨map, rfl⟩), rfl, fun _ => trivial⟩

theorem listPods (ns selector : String) : Inspecting (Task.listPods ns selector).run :=
  ⟨.request (r := .listPods ns selector) rfl id (by rintro (_ | _) _ h <;> cases h; rfl)
    (by rintro (_ | pods) h <;> cases h; exact ⟨pods, rfl⟩), rfl, fun _ => trivial⟩

end Inspecting

namespace Validity

variable {α β : Type}

/-! ## Checks -/

/-- A check that only looks around; its finding is no failure. -/
def Looks (t : Check α) : Prop := Inspecting t.run.run

namespace Looks

theorem done (result : Except Finding α) : Looks (ExceptT.mk (Pure.pure result) : Check α) :=
  Inspecting.pure result

theorem pure (a : α) : Looks (Pure.pure a : Check α) := done (.ok a)

theorem throw (f : Finding) : Looks (throw f : Check α) := done (.error f)

theorem ofTask {t : Task α} (ht : Inspecting t.run) : Looks (liftM t : Check α) :=
  Inspecting.map Except.ok ht

theorem bind {t : Check α} {f : α → Check β} (ht : Looks t) (hf : ∀ a, Looks (f a)) :
    Looks (t >>= f) := by
  unfold Looks
  rw [ExceptT.run_bind]
  refine Inspecting.bind ht fun result => ?_
  cases result with
  | ok a => exact hf a
  | error finding => exact Inspecting.pure _

theorem mapM {f : α → Check β} (hf : ∀ a, Looks (f a)) (l : List α) : Looks (l.mapM f) := by
  induction l with
  | nil => exact .pure []
  | cons a rest ih =>
    rw [List.mapM_cons]
    exact (hf a).bind fun b => ih.bind fun bs => .pure (b :: bs)

end Looks

theorem looks_configMapMount (ns name : String) : Looks (configMapMount ns name) := by
  refine (Looks.ofTask (.getConfigMap ⟨ns, name⟩)).bind fun found => ?_
  cases found with
  | none => exact .throw _
  | some map =>
    dsimp only
    split
    · exact .throw _
    · split
      · split
        · exact .pure _
        · exact .throw _
      · exact .pure _

theorem looks_secretMount (config : Config) (ns name : String) :
    Looks (secretMount config ns name) := by
  refine (Looks.ofTask (.getSecret ⟨ns, name⟩)).bind fun found => ?_
  cases found with
  | none => exact .throw _
  | some secret =>
    dsimp only
    split
    · split
      · exact .pure _
      · exact .throw _
    · split
      · split
        · exact .throw _
        · exact .pure _
        · split
          · exact .pure _
          · exact .throw _
      · exact .pure _

theorem looks_extraMounts (config : Config) (ns : String) (mounts : ExtraMounts) :
    Looks (extraMounts config ns mounts) := by
  refine (Looks.mapM (looks_configMapMount ns) _).bind fun maps => ?_
  refine (Looks.mapM (looks_secretMount config ns) _).bind fun secrets => ?_
  dsimp only
  split
  · exact .throw _
  · split
    · exact .throw _
    · exact .pure _

theorem looks_console (c : Cluster) : Looks (console c) := by
  unfold console
  split
  · refine (Looks.ofTask (.getSecret _)).bind fun found => ?_
    cases found with
    | none => exact .throw _
    | some secret =>
      dsimp only
      split
      · exact .pure _
      · exact .throw _
  · exact .pure _

theorem looks_report (finding : Option Finding) : Looks (report finding) := by
  cases finding with
  | none => exact .pure _
  | some f => exact .throw f

/-- The checks of a cluster only look around. -/
theorem looks_checks (config : Config) (c : Cluster) : Looks (checks config c) :=
  (looks_report _).bind fun _ => (looks_extraMounts config _ _).bind fun _ =>
    (looks_report _).bind fun _ => (looks_console c).bind fun _ => looks_report _

end Validity

/-- Observing a cluster is looking around. -/
theorem Projection.inspecting_observe (c : Cluster) : Inspecting (observe c).run := by
  refine (Inspecting.listPods _ _).bind fun pods => ?_
  refine (Inspecting.mapM (fun name => ?_) _).bind fun maps => ?_
  · exact (Inspecting.getConfigMap _).bind fun _ => .pure _
  · refine (Inspecting.mapM (fun name => ?_) _).bind fun secrets => .pure _
    exact (Inspecting.getSecret _).bind fun _ => .pure _

end BrokerFleet
