import BrokerFleet.Proofs.Handler.Announcement
import Mathlib.Data.List.Induction

/-! # The registry and its history

Each change says what becomes of the handler of one owner. So after any run of changes an owner has
the handler that was registered for it last, unless it was removed since, and a cluster finds the
one of the first owner whose handler applies to it. The same history tells who hears of the next
change. -/

namespace BrokerFleet

/-- The order of owners: by namespace, then by name. -/
def ObjectKey.Precedes (a b : ObjectKey) : Prop := a.ns < b.ns ∨ a.ns = b.ns ∧ a.name < b.name

theorem ObjectKey.compare_eq_lt_iff {a b : ObjectKey} : compare a b = .lt ↔ a.Precedes b := by
  have htext {x y : String} : compare x y = .lt ↔ x < y := compareOfLessAndEq_eq_lt
  show (compareOn ObjectKey.ns a b).then (compareOn ObjectKey.name a b) = .lt ↔ _
  rw [Ordering.then_eq_lt, compareOn, compareOn, htext, htext, Std.compare_eq_iff_eq]
  rfl

namespace HandlerRegistry

variable {σ : Type} {hd : Handler surroundings σ} {r : HandlerRegistry} {s : σ} {h : ConfigHandler}
  {cluster : ObjectKey}

/-! ## What a history leaves -/

namespace Change

def owner : Change → ObjectKey
  | register owner _ _ => owner
  | unregister owner => owner

/-- The handler that a change leaves to its owner. -/
def leaves : Change → Option ConfigHandler
  | register _ new _ => some new
  | unregister _ => none

theorem get?_result (c : Change) (r : HandlerRegistry) (owner : ObjectKey) :
    (c.result r).get? owner = if c.owner = owner then c.leaves else r.get? owner := by
  cases c with
  | register owner' new force =>
    by_cases howner : owner' = owner
    · simp [result, Change.owner, leaves, howner]
    · rw [result, Dict.get?_insert_of_ne _ _ (Ne.symm howner), if_neg (by exact howner)]
  | unregister owner' =>
    by_cases howner : owner' = owner
    · simp [result, Change.owner, leaves, howner]
    · rw [result, Dict.get?_erase_of_ne _ (Ne.symm howner), if_neg (by exact howner)]

end Change

/-- The handler that was registered last for an owner and not removed since. -/
def standing (history : List Change) (owner : ObjectKey) : Option ConfigHandler :=
  (history.filter fun c => c.owner = owner).getLast?.bind Change.leaves

theorem standing_append_singleton (history : List Change) (c : Change) (owner : ObjectKey) :
    standing (history ++ [c]) owner = if c.owner = owner then c.leaves
      else standing history owner := by
  by_cases howner : c.owner = owner <;> simp [standing, List.filter_append, howner]

theorem get?_foldl_result (history : List Change) (owner : ObjectKey) :
    (history.foldl (fun r c => c.result r) Dict.empty).get? owner = standing history owner := by
  induction history using List.reverseRecOn with
  | nil => rfl
  | append_singleton history c ih =>
    rw [List.foldl_append, standing_append_singleton, ← ih]
    exact c.get?_result _ owner

/-! ## Runs -/

theorem registry_of_makeAll (hd : Handler surroundings σ) (turns : List (Turn σ))
    (r : HandlerRegistry) (s : σ) :
    (makeAll hd turns r s).2.1 = (turns.map Turn.change).foldl (fun r c => c.result r) r := by
  induction turns generalizing r s with
  | nil => rfl
  | cons t rest ih => rw [makeAll, ih, registry_of_make, List.map_cons, List.foldl_cons]

/-- Changes after a run are made with the registry and in the state that the run leads to. -/
theorem makeAll_append (turns more : List (Turn σ)) (r : HandlerRegistry) (s : σ) :
    makeAll hd (turns ++ more) r s =
      let run := makeAll hd turns r s
      let later := makeAll hd more run.2.1 run.2.2
      (run.1 ++ later.1, later.2) := by
  induction turns generalizing r s with
  | nil => rfl
  | cons first rest ih => simp [makeAll, ih]

theorem get?_of_makeAll (hd : Handler surroundings σ) (turns : List (Turn σ)) (s : σ)
    (owner : ObjectKey) :
    (makeAll hd turns Dict.empty s).2.1.get? owner = standing (turns.map Turn.change) owner := by
  rw [registry_of_makeAll, get?_foldl_result]

/-! ## What a cluster finds, and who hears -/

theorem lookup_eq_some_iff :
    lookup r cluster = some h ↔
      ∃ owner, r.get? owner = some h ∧ h.appliesTo cluster = true ∧
        ∀ owner' h', owner'.Precedes owner → r.get? owner' = some h' →
        h'.appliesTo cluster = false := by
  rw [lookup_eq_find?, Option.map_eq_some_iff]
  simp only [Prod.exists, Dict.find?_entries_eq_some, ObjectKey.compare_eq_lt_iff]
  constructor
  · rintro ⟨owner, _, hfound, rfl⟩
    exact ⟨owner, hfound⟩
  · rintro ⟨owner, hfound⟩
    exact ⟨owner, h, hfound, rfl⟩

theorem lookup_eq_none_iff :
    lookup r cluster = none ↔ ∀ owner h, r.get? owner = some h → h.appliesTo cluster = false := by
  simp [lookup_eq_find?, Dict.mem_entries_iff]

/-- At every point of every run of changes a cluster finds the handler of the first owner whose
standing handler applies to it, and nothing if there is none. Where the clusters can be listed and
someone listens, a forced registration asks for a pass over each of them that the new handler
applies to, in the order of the listing, and the removal of a standing handler does so for that
handler. Other changes ask for nothing. -/
theorem history_decides (hd : Handler surroundings σ) (turns : List (Turn σ)) (s : σ) :
    let run := makeAll hd turns Dict.empty s
    let history := turns.map Turn.change
    (∀ cluster h, lookup run.2.1 cluster = some h ↔
      ∃ owner, standing history owner = some h ∧ h.appliesTo cluster = true ∧
        ∀ owner' h', owner'.Precedes owner → standing history owner' = some h' →
          h'.appliesTo cluster = false) ∧
    (∀ cluster, lookup run.2.1 cluster = none ↔
      ∀ owner h, standing history owner = some h → h.appliesTo cluster = false) ∧
    ∀ (turn : Turn σ) (rest : List (Turn σ)) (clusters : List Cluster), Listens hd →
      (hd (.listClusters none) (turn.meanwhile run.2.2)).1 = .ok clusters →
      let next := make hd turn.change run.2.1 (turn.meanwhile run.2.2)
      (makeAll hd (turns ++ turn :: rest) Dict.empty s).1 =
        run.1 ++ next.1 :: (makeAll hd rest next.2.1 next.2.2).1 ∧
      next.1.outcome = .ok () ∧
      match turn.change with
      | .register _ new true => passesIn next.1.log = audience new clusters
      | .register _ _ false => next.1.log = []
      | .unregister owner =>
        match standing history owner with
        | none => next.1.log = []
        | some old => passesIn next.1.log = audience old clusters := by
  intro run history
  have hregistry (owner : ObjectKey) : run.2.1.get? owner = standing history owner :=
    get?_of_makeAll hd turns s owner
  refine ⟨fun cluster h => ?_, fun cluster => ?_, ?_⟩
  · simp only [lookup_eq_some_iff, hregistry]
  · simp only [lookup_eq_none_iff, hregistry]
  · intro turn rest clusters hlistens hlisted
    obtain ⟨hok, hhears⟩ := made_hears (c := turn.change) (r := run.2.1) hlistens hlisted
    refine ⟨by rw [makeAll_append]; rfl, hok, ?_⟩
    generalize (make hd turn.change run.2.1 (turn.meanwhile run.2.2)).1.log = log at hhears ⊢
    cases hchange : turn.change with
    | register owner new force =>
      rw [hchange] at hhears
      cases force <;> exact hhears
    | unregister owner =>
      rw [hchange, Change.announced, hregistry] at hhears
      exact hhears

/-- The handler of a smaller owner is taken out: both of the clusters that it applied to hear of
it. -/
theorem history_decides_twoClusters :
    let turns : List (Turn Bool) :=
      [⟨id, .register ⟨"n", "o"⟩ (handlerFor ["a"]) false⟩,
        ⟨id, .register ⟨"m", "p"⟩ (handlerFor ["a", "b"]) true⟩,
        ⟨id, .register ⟨"n", "o"⟩ (handlerFor ["b"]) true⟩]
    let run := makeAll twoClusters turns Dict.empty false
    let next := make twoClusters (.unregister ⟨"m", "p"⟩) run.2.1 run.2.2
    Listens twoClusters ∧
      (twoClusters (.listClusters none) run.2.2).1 = .ok [namedCluster "a", namedCluster "b"] ∧
      next.1.outcome = .ok () ∧
      passesIn next.1.log = [pass (namedCluster "a"), pass (namedCluster "b")] := by
  intro turns run next
  have hlistens : Listens twoClusters := fun _ _ => rfl
  have hlisted : (twoClusters (.listClusters none) run.2.2).1 =
      .ok [namedCluster "a", namedCluster "b"] := rfl
  obtain ⟨-, -, hnext⟩ := history_decides twoClusters turns false
  obtain ⟨-, hok, hpasses⟩ := hnext ⟨id, .unregister ⟨"m", "p"⟩⟩ [] _ hlistens hlisted
  exact ⟨hlistens, hlisted, hok, hpasses⟩

end HandlerRegistry

end BrokerFleet
