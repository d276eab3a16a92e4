import BrokerFleet.ApiServer.Provision
import BrokerFleet.Proofs.Program.Task

/-! # What provisioning asks of the API server

Provisioning looks at the planned objects and writes them, and asks nothing else. A request about an
object goes to the path of the object, unless a name in the path ends it early. -/

namespace BrokerFleet

/-! ## Targets -/

namespace Http.Target

/-- Whether a text stands in a path as it is: none of its characters ends a path. -/
def Unbroken (text : String) : Prop := '?' ∉ text.toList ∧ '#' ∉ text.toList

instance (text : String) : Decidable (Unbroken text) := inferInstanceAs (Decidable (_ ∧ _))

theorem unbroken_append {a b : String} : Unbroken (a ++ b) ↔ Unbroken a ∧ Unbroken b := by
  simp only [Unbroken, String.toList_append, List.mem_append, not_or]
  exact and_and_and_comm

/-- A path ends at the first question mark or number sign. -/
theorem split_fst (text : List Char) :
    (split text).1 = text.takeWhile fun c => c ≠ '#' ∧ c ≠ '?' := by
  induction text with
  | nil => rfl
  | cons c rest ih =>
    by_cases hvisible : c = '#'
    · subst hvisible
      rfl
    · rw [split, List.takeWhile_cons_of_pos (by simp [hvisible])]
      by_cases hquery : c = '?'
      · subst hquery
        rfl
      · rw [List.takeWhile_cons_of_pos (by simp [hvisible, hquery]), ← ih, split]
        simp only [Text.splitFirst?, hquery, if_false]
        cases Text.splitFirst? '?' (rest.takeWhile (· ≠ '#')) <;> rfl

/-- A query does not change where a path ends. -/
theorem split_targetText (path : String) (terms : List String) :
    (split (ApiRequest.targetText path terms).toList).1 = (split path.toList).1 := by
  have htext : (ApiRequest.targetText path terms).toList =
      path.toList ++ '?' :: (String.join (terms.map fun t => "&" ++ t)).toList := by
    simp only [ApiRequest.targetText, String.toList_append, List.append_assoc]
    rfl
  rw [htext, split_fst, split_fst, List.takeWhile_append]
  split
  · next hall =>
    rw [List.takeWhile_cons_of_neg (by decide), List.append_nil]
    exact ((List.takeWhile_prefix _).eq_of_length hall).symm
  · rfl

/-- An unbroken text is the path that it names. -/
theorem split_unbroken {path : String} (hpath : Unbroken path) :
    (split path.toList).1 = path.toList := by
  have hends : (path.toList ++ []).takeWhile (fun c => c ≠ '#' ∧ c ≠ '?') = path.toList ++ [] :=
    List.takeWhile_append_of_pos fun c hc =>
      decide_eq_true ⟨fun h => hpath.2 (h ▸ hc), fun h => hpath.1 (h ▸ hc)⟩
  rwa [List.append_nil, ← split_fst] at hends

end Http.Target

namespace ApiRequest

/-! ## Requests about an object -/

theorem path_of_draft {method : ApiMethod} {text : String} {content : Option (String × Json)}
    {r : ApiRequest} (h : draft method text content = .ok r) :
    r.target.path = String.ofList (Http.Target.split text.toList).1 := by
  unfold draft Http.Target.ofText? at h
  dsimp only at h
  split at h
  · next target htarget =>
    split at htarget
    · cases htarget
      cases h
      rfl
    · cases htarget
  · cases h

theorem of_about {c : ApiCollection} {key : ObjectKey} {f : String → Except ApiFailure ApiRequest}
    {r : ApiRequest} (h : about c key f = .ok r) : f (c.objectPath key) = .ok r := by
  unfold about at h
  split at h
  · cases h
  · exact h

/-- Whether a request reads an object or writes it. -/
inductive Concerns (collection : ApiCollection) (key : ObjectKey) (r : ApiRequest) : Prop where
  | read (h : get collection key = .ok r)
  | write (document : Json) (h : apply collection key document = .ok r)

/-- A request about an object goes to the path of the object. -/
theorem Concerns.path {collection : ApiCollection} {key : ObjectKey} {r : ApiRequest}
    (h : Concerns collection key r) (hpath : Http.Target.Unbroken (collection.objectPath key)) :
    r.target.path = collection.objectPath key := by
  cases h with
  | read h =>
    rw [path_of_draft (of_about h), Http.Target.split_unbroken hpath, String.ofList_toList]
  | write document h =>
    rw [path_of_draft (of_about h), Http.Target.split_targetText, Http.Target.split_unbroken hpath,
      String.ofList_toList]

-- a name that ends the path early makes a request about the object of another name
example : (get .pods ⟨"n", "a#b"⟩).toOption.map (·.target.path) =
    some (ApiCollection.pods.objectPath ⟨"n", "a"⟩) := by
  decide

end ApiRequest

/-! ## Provisioning -/

namespace ApiServer

variable {α : Type} {asked : ApiRequest → Prop}

theorem asks_send {r : Except ApiFailure ApiRequest} {d : Json.Decoder α}
    (h : ∀ request, r = .ok request → asked request) :
    (send r d).Asks asked := by
  cases r with
  | error e => trivial
  | ok request => exact ⟨h request rfl, fun _ => trivial⟩

theorem asks_task {p : Program apiServer (Except ApiFailure α)} (hp : p.Asks asked) :
    (task p).run.Asks asked :=
  hp.bind fun _ => trivial

theorem asks_find? (c : ApiCollection) (d : Json.Decoder α) (key : ObjectKey) :
    (find? c d key).run.Asks (ApiRequest.Concerns c key) :=
  asks_task ((asks_send fun _ h => .read h).bind fun _ => trivial)

theorem asks_apply (o : PlannedObject) :
    (apply o).run.Asks (ApiRequest.Concerns o.collection o.key) := by
  refine Task.asks_bind (asks_find? o.collection _ o.key) fun existing => ?_
  have hwrite :
      (task (send (ApiRequest.apply o.collection o.key o.document) (metadataOf o.shape))).run.Asks
      (ApiRequest.Concerns o.collection o.key) :=
    asks_task (asks_send fun _ h => .write o.document h)
  cases existing with
  | none => exact Task.asks_bind hwrite fun _ => trivial
  | some m => exact Task.asks_bind trivial fun _ => Task.asks_bind hwrite fun _ => trivial

/-- Provisioning asks about planned objects only. -/
theorem asks_provision (c : Cluster) (handler : Option ConfigHandler) :
    (provision c handler).run.Asks fun r => ∃ p, WorkloadPlan.ofCluster c = .ok p ∧
      ∃ o ∈ p.objects handler, ApiRequest.Concerns o.collection o.key r := by
  unfold provision
  cases hplan : WorkloadPlan.ofCluster c with
  | error e => trivial
  | ok p =>
    show ((p.objects handler).forM apply).run.Asks _
    exact Task.asks_forM fun o ho => (asks_apply o).mono fun r hr => ⟨p, rfl, o, ho, hr⟩

end ApiServer

end BrokerFleet
