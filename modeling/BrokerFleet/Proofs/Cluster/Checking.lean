import BrokerFleet.Proofs.Cluster.Inspection

/-! # How checks end

A check that reads a store without failures ends with a result. What is known of the results of its
parts is put together like the check itself; of checks in turn, the first that fails ends them
all. -/

namespace BrokerFleet.Validity

/-! ## What a store holds -/

/-- The config maps and secrets that a namespace holds. -/
structure Contents where
  configMaps : String → Option ConfigMap
  secrets : String → Option Secret

variable {α β σ : Type} {h : Handler surroundings σ} {ns : String} {w : Contents} {Q : σ → Prop}

/-- A store that can be read and holds these contents in a namespace, in all states that reading
leads to. -/
structure Serves (h : Handler surroundings σ) (ns : String) (w : Contents) (Q : σ → Prop) :
    Prop where
  configMap : ∀ name s, Q s → (h (.getConfigMap ⟨ns, name⟩) s).1 = .ok (w.configMaps name) ∧
    Q (h (.getConfigMap ⟨ns, name⟩) s).2
  secret : ∀ name s, Q s → (h (.getSecret ⟨ns, name⟩) s).1 = .ok (w.secrets name) ∧
    Q (h (.getSecret ⟨ns, name⟩) s).2

/-- A store that holds the same in every namespace, and nothing else. -/
def holding (w : Contents) : Handler surroundings Unit
  | .getConfigMap key, s => (.ok (w.configMaps key.name), s)
  | .getSecret key, s => (.ok (w.secrets key.name), s)
  | r, s => (r.refusal, s)

theorem serves_holding (ns : String) (w : Contents) : Serves (holding w) ns w fun _ => True where
  configMap _ _ _ := ⟨rfl, trivial⟩
  secret _ _ _ := ⟨rfl, trivial⟩

/-! ## Results of checks -/

/-- A check ends in the given states with a result of which something holds, and in such a state. -/
def Ends (h : Handler surroundings σ) (Q : σ → Prop) (t : Check α) (P : Except Finding α → Prop) :
    Prop :=
  ∀ s, Q s → ∃ r, Task.outcome h t.run s = .ok r ∧ P r ∧ Q (Task.after h t.run s)

namespace Ends

variable {t : Check α} {f : α → Check β} {P : Except Finding α → Prop} {R : Except Finding β → Prop}

theorem pure {a : α} (ha : P (.ok a)) : Ends h Q (Pure.pure a) P :=
  fun _ hs => ⟨_, rfl, ha, hs⟩

theorem throw {finding : Finding} (hf : P (.error finding)) : Ends h Q (throw finding) P :=
  fun _ hs => ⟨_, rfl, hf, hs⟩

theorem mono {P' : Except Finding α → Prop} (ht : Ends h Q t P) (himp : ∀ r, P r → P' r) :
    Ends h Q t P' := by
  intro s hs
  obtain ⟨r, hr, hP, hs'⟩ := ht s hs
  exact ⟨r, hr, himp r hP, hs'⟩

theorem bind (ht : Ends h Q t P) (hok : ∀ a, P (.ok a) → Ends h Q (f a) R)
    (herror : ∀ finding, P (.error finding) → R (.error finding)) : Ends h Q (t >>= f) R := by
  intro s hs
  obtain ⟨r, hr, hP, hs'⟩ := ht s hs
  rw [ExceptT.run_bind, Task.outcome_bind_ok _ hr, Task.after_bind_ok _ hr]
  cases r with
  | ok a => exact hok a hP _ hs'
  | error finding => exact ⟨_, rfl, herror finding hP, hs'⟩

/-- A task that comes to a value is no reason for a finding. -/
theorem ofTask {u : Task α} {a : α}
    (hu : ∀ s, Q s → Task.outcome h u s = .ok a ∧ Q (Task.after h u s)) (hf : Ends h Q (f a) R) :
    Ends h Q ((liftM u : Check α) >>= f) R := by
  intro s hs
  obtain ⟨ha, hs'⟩ := hu s hs
  have hrun : ((liftM u : Check α) >>= f).run = u >>= fun a => (f a).run := by
    change (Except.ok <$> u) >>= _ = _
    rw [map_eq_pure_bind, bind_assoc]
    rfl
  rw [hrun, Task.outcome_bind_ok _ ha, Task.after_bind_ok _ ha]
  exact hf _ hs'

theorem getConfigMap {f : Option ConfigMap → Check β} (hserves : Serves h ns w Q) {name : String}
    (hf : Ends h Q (f (w.configMaps name)) R) :
    Ends h Q ((liftM (Task.getConfigMap ⟨ns, name⟩) : Check _) >>= f) R :=
  ofTask (hserves.configMap name) hf

theorem getSecret {f : Option Secret → Check β} (hserves : Serves h ns w Q) {name : String}
    (hf : Ends h Q (f (w.secrets name)) R) :
    Ends h Q ((liftM (Task.getSecret ⟨ns, name⟩) : Check _) >>= f) R :=
  ofTask (hserves.secret name) hf

theorem report {finding : Option Finding} {P : Except Finding Unit → Prop}
    (hnone : finding = none → P (.ok ())) (hsome : ∀ f, finding = some f → P (.error f)) :
    Ends h Q (report finding) P := by
  cases finding with
  | none => exact .pure (hnone rfl)
  | some f => exact .throw (hsome f rfl)

end Ends

/-! ## Checks in turn -/

/-- The first of a list of which something does not hold. -/
inductive FirstFailing (S : α → Prop) : List α → α → Prop where
  | head {x : α} {xs : List α} (hx : ¬ S x) : FirstFailing S (x :: xs) x
  | tail {x y : α} {xs : List α} (hy : S y) (hx : FirstFailing S xs x) : FirstFailing S (y :: xs) x

namespace FirstFailing

variable {S : α → Prop} {xs : List α} {x y : α}

theorem not_holds (hx : FirstFailing S xs x) : ¬ S x := by
  induction hx with
  | head hx => exact hx
  | tail _ _ ih => exact ih

theorem mem (hx : FirstFailing S xs x) : x ∈ xs := by
  induction hx with
  | head _ => exact List.mem_cons_self
  | tail _ _ ih => exact List.mem_cons_of_mem _ ih

theorem exists_of_mem (hmem : x ∈ xs) (hx : ¬ S x) : ∃ y, FirstFailing S xs y := by
  induction xs with
  | nil => cases hmem
  | cons y rest ih =>
    by_cases hy : S y
    · rcases List.mem_cons.mp hmem with rfl | hmem
      · exact absurd hy hx
      · obtain ⟨z, hz⟩ := ih hmem
        exact ⟨z, .tail hy hz⟩
    · exact ⟨y, .head hy⟩

theorem unique (hx : FirstFailing S xs x) (hy : FirstFailing S xs y) : x = y := by
  induction hx with
  | head hx =>
    cases hy with
    | head _ => rfl
    | tail hhead _ => exact absurd hhead hx
  | tail hhead _ ih =>
    cases hy with
    | head hy => exact absurd hhead hy
    | tail _ hy => exact ih hy

end FirstFailing

/-- The result of checks in turn: those of all of them, or the finding of the first that has one. -/
inductive InTurn (P : α → Except Finding β → Prop) : List α → Except Finding (List β) → Prop where
  | done : InTurn P [] (.ok [])
  | passed {x : α} {xs : List α} {b : β} {bs : List β} (hx : P x (.ok b))
      (hxs : InTurn P xs (.ok bs)) :
      InTurn P (x :: xs) (.ok (b :: bs))
  | failed {x : α} {xs : List α} {finding : Finding} (hx : P x (.error finding)) :
      InTurn P (x :: xs) (.error finding)
  | later {x : α} {xs : List α} {b : β} {finding : Finding} (hx : P x (.ok b))
      (hxs : InTurn P xs (.error finding)) : InTurn P (x :: xs) (.error finding)

namespace InTurn

variable {P : α → Except Finding β → Prop} {S : α → Prop} {xs : List α}

/-- All have passed: what passing means holds of each of them. -/
theorem of_ok (g : α → β) {bs : List β} (hok : ∀ x b, P x (.ok b) → S x ∧ g x = b)
    (hr : InTurn P xs (.ok bs)) : (∀ x ∈ xs, S x) ∧ xs.map g = bs := by
  generalize hresult : Except.ok bs = r at hr
  induction hr generalizing bs with
  | done =>
    cases hresult
    exact ⟨nofun, rfl⟩
  | passed hx _ ih =>
    cases hresult
    obtain ⟨hS, rfl⟩ := hok _ _ hx
    obtain ⟨hall, rfl⟩ := ih rfl
    exact ⟨List.forall_mem_cons.mpr ⟨hS, hall⟩, rfl⟩
  | failed _ => cases hresult
  | later _ _ _ => cases hresult

/-- Some have not: the finding is that of the first. -/
theorem of_error {finding : Finding} (hok : ∀ x b, P x (.ok b) → S x)
    (herror : ∀ x f, P x (.error f) → ¬ S x) (hr : InTurn P xs (.error finding)) :
    ∃ x, FirstFailing S xs x ∧ P x (.error finding) := by
  generalize hresult : Except.error finding = r at hr
  induction hr with
  | done => cases hresult
  | passed _ _ _ => cases hresult
  | @failed x _ _ hx =>
    cases hresult
    exact ⟨x, .head (herror _ _ hx), hx⟩
  | later hx _ ih =>
    obtain ⟨y, hfirst, hy⟩ := ih hresult
    exact ⟨y, .tail (hok _ _ hx) hfirst, hy⟩

end InTurn

theorem Ends.mapM {f : α → Check β} {P : α → Except Finding β → Prop}
    (hf : ∀ a, Ends h Q (f a) (P a)) (xs : List α) : Ends h Q (xs.mapM f) (InTurn P xs) := by
  induction xs with
  | nil => exact .pure .done
  | cons x rest ih =>
    rw [List.mapM_cons]
    refine (hf x).bind (fun b hb => ?_) fun finding hfinding => .failed hfinding
    exact ih.bind (fun bs hbs => .pure (.passed hb hbs)) fun finding hfinding => .later hb hfinding

/-! ## Checks that pass -/

def Passes (h : Handler surroundings σ) (t : Check α) (a : α) (s : σ) : Prop :=
  Task.outcome h t.run s = .ok (.ok a)

/-- A check that passes went through its first part and then through its second. -/
theorem Passes.bind_inv {t : Check α} {f : α → Check β} {b : β} {s : σ}
    (hpasses : Passes h (t >>= f) b s) :
    ∃ a, Passes h t a s ∧ Passes h (f a) b (Task.after h t.run s) := by
  rw [Passes, ExceptT.run_bind] at hpasses
  obtain ⟨r, hr, hb⟩ := Task.outcome_bind_eq_ok _ hpasses
  cases r with
  | ok a => exact ⟨a, hr, hb⟩
  | error finding => cases hb

theorem Passes.mapM_inv {f : α → Check β} {xs : List α} {bs : List β} {s : σ}
    (hpasses : Passes h (xs.mapM f) bs s) : ∀ x ∈ xs, ∃ b s', Passes h (f x) b s' := by
  induction xs generalizing bs s with
  | nil => exact nofun
  | cons x rest ih =>
    rw [List.mapM_cons] at hpasses
    obtain ⟨b, hb, hrest⟩ := hpasses.bind_inv
    obtain ⟨bs', hbs', -⟩ := hrest.bind_inv
    exact List.forall_mem_cons.mpr ⟨⟨b, s, hb⟩, ih hbs'⟩

theorem Passes.report_inv {finding : Option Finding} {u : Unit} {s : σ}
    (hpasses : Passes h (report finding) u s) : finding = none := by
  cases finding with
  | none => rfl
  | some f => cases hpasses

/-! ## What checks find -/

/-- Every finding of a check has a property, whatever the check reads. -/
def Finds (P : Finding → Prop) (h : Handler surroundings σ) (t : Check α) : Prop :=
  ∀ s f, Task.outcome h t.run s = .ok (.error f) → P f

namespace Finds

variable {P : Finding → Prop}

theorem pure (a : α) : Finds P h (Pure.pure a) := nofun

theorem throw {finding : Finding} (hf : P finding) : Finds P h (throw finding : Check α) := by
  rintro _ _ ⟨⟩
  exact hf

theorem bind {t : Check α} {f : α → Check β} (ht : Finds P h t) (hf : ∀ a, Finds P h (f a)) :
    Finds P h (t >>= f) := by
  intro s finding hfound
  rw [ExceptT.run_bind] at hfound
  obtain ⟨r, hr, hrest⟩ := Task.outcome_bind_eq_ok _ hfound
  cases r with
  | ok a => exact hf a _ finding hrest
  | error found =>
    cases hrest
    exact ht s finding hr

/-- A task is no reason for a finding. -/
theorem liftM (t : Task α) : Finds P h (liftM t : Check α) := by
  intro s finding hfound
  change Task.outcome h (Except.ok <$> t) s = _ at hfound
  obtain ⟨a, -, hcontra⟩ := Task.outcome_map_eq_ok hfound
  cases hcontra

theorem mapM {f : α → Check β} (hf : ∀ a, Finds P h (f a)) (xs : List α) :
    Finds P h (xs.mapM f) := by
  induction xs with
  | nil => exact .pure []
  | cons x rest ih =>
    rw [List.mapM_cons]
    exact (hf x).bind fun _ => ih.bind fun _ => .pure _

end Finds

/-- How a check ends in whatever state says what it finds. -/
theorem Ends.finds {t : Check α} {P : Except Finding α → Prop} {S : Finding → Prop}
    (ht : Ends h (fun _ => True) t P) (hf : ∀ f, P (.error f) → S f) : Finds S h t := by
  intro s f hfound
  obtain ⟨r, hr, hP, -⟩ := ht s trivial
  obtain rfl : r = .error f := Except.ok.inj (hr.symm.trans hfound)
  exact hf f hP

end BrokerFleet.Validity
