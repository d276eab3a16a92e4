import BrokerFleet.Proofs.Program.Transcript
import BrokerFleet.Surroundings

/-! # Running tasks

A task that is followed by another hands it its value, unless it fails: then nothing more is
asked. -/

namespace BrokerFleet.Task

variable {α β σ : Type} (h : Handler surroundings σ)

/-- What a task comes to. -/
def outcome (t : Task α) (s : σ) : Except Failure α := (t.run.run h s).1

/-- What a task asks, with the answers. -/
def transcript (t : Task α) (s : σ) : List surroundings.Reply := t.run.transcript h s

/-- The state of the surroundings after a task. -/
def after (t : Task α) (s : σ) : σ := (t.run.run h s).2

@[simp] theorem outcome_pure (a : α) (s : σ) : outcome h (pure a) s = .ok a := rfl

@[simp] theorem outcome_throw (e : Failure) (s : σ) :
    outcome h (throw e : Task α) s = .error e := rfl

@[simp] theorem transcript_throw (e : Failure) (s : σ) :
    transcript h (throw e : Task α) s = [] := rfl

@[simp] theorem outcome_lift (c : Course α) (s : σ) : outcome h (lift c) s = .ok (c.run h s).1 := by
  simp [outcome, lift, Program.map_eq_bind_done, Program.run_bind]

@[simp] theorem transcript_lift (c : Course α) (s : σ) :
    transcript h (lift c) s = c.transcript h s := by
  simp [transcript, lift, Program.map_eq_bind_done, Program.transcript_bind]

@[simp] theorem after_lift (c : Course α) (s : σ) : after h (lift c) s = (c.run h s).2 := by
  simp [after, lift, Program.map_eq_bind_done, Program.run_bind]

/-- A task that is attempted does not fail: its outcome is the value. -/
@[simp] theorem outcome_attempt (t : Task α) (s : σ) :
    outcome h t.attempt s = .ok (outcome h t s) := outcome_lift h t.run s

@[simp] theorem transcript_attempt (t : Task α) (s : σ) :
    transcript h t.attempt s = transcript h t s := transcript_lift h t.run s

section Bind

variable {h} {t : Task α} {s : σ} (f : α → Task β)

theorem outcome_bind_ok {a : α} (ht : outcome h t s = .ok a) :
    outcome h (t >>= f) s = outcome h (f a) (after h t s) := by
  unfold outcome at ht
  simp [outcome, after, ExceptT.run_bind, Program.run_bind, ht]

theorem transcript_bind_ok {a : α} (ht : outcome h t s = .ok a) :
    transcript h (t >>= f) s = transcript h t s ++ transcript h (f a) (after h t s) := by
  unfold outcome at ht
  simp [transcript, after, ExceptT.run_bind, Program.transcript_bind, ht]

theorem after_bind_ok {a : α} (ht : outcome h t s = .ok a) :
    after h (t >>= f) s = after h (f a) (after h t s) := by
  unfold outcome at ht
  simp [after, ExceptT.run_bind, Program.run_bind, ht]

theorem outcome_bind_error {e : Failure} (ht : outcome h t s = .error e) :
    outcome h (t >>= f) s = .error e := by
  unfold outcome at ht
  simp [outcome, ExceptT.run_bind, Program.run_bind, ht]

theorem transcript_bind_error {e : Failure} (ht : outcome h t s = .error e) :
    transcript h (t >>= f) s = transcript h t s := by
  unfold outcome at ht
  simp [transcript, ExceptT.run_bind, Program.transcript_bind, ht]

theorem after_bind_error {e : Failure} (ht : outcome h t s = .error e) :
    after h (t >>= f) s = after h t s := by
  unfold outcome at ht
  simp [after, ExceptT.run_bind, Program.run_bind, ht]

/-- A task that comes to a value went through its first part and then through its second. -/
theorem outcome_bind_eq_ok {b : β} (hok : outcome h (t >>= f) s = .ok b) :
    ∃ a, outcome h t s = .ok a ∧ outcome h (f a) (after h t s) = .ok b := by
  cases ht : outcome h t s with
  | ok a => exact ⟨a, rfl, by rwa [outcome_bind_ok f ht] at hok⟩
  | error e =>
    rw [outcome_bind_error f ht] at hok
    cases hok

theorem outcome_map_eq_ok {g : α → β} {b : β} (hok : outcome h (g <$> t) s = .ok b) :
    ∃ a, outcome h t s = .ok a ∧ g a = b := by
  rw [map_eq_pure_bind] at hok
  obtain ⟨a, ha, hb⟩ := outcome_bind_eq_ok _ hok
  exact ⟨a, ha, Except.ok.inj hb⟩

end Bind

/-- The values of a task on each item of a list are each of an item. -/
theorem exists_of_mapM_eq_ok {h : Handler surroundings σ} {f : α → Task β} {l : List α}
    {bs : List β} {s : σ} (hok : outcome h (l.mapM f) s = .ok bs) :
    ∀ b ∈ bs, ∃ a ∈ l, ∃ s', outcome h (f a) s' = .ok b := by
  induction l generalizing bs s with
  | nil =>
    cases hok
    simp
  | cons a rest ih =>
    rw [List.mapM_cons] at hok
    obtain ⟨b, hb, hrest⟩ := outcome_bind_eq_ok _ hok
    obtain ⟨bs', hbs', hcons⟩ := outcome_bind_eq_ok _ hrest
    cases hcons
    intro x hx
    rcases List.mem_cons.mp hx with rfl | hx
    · exact ⟨a, List.mem_cons_self, s, hb⟩
    · obtain ⟨a', ha', s', hs'⟩ := ih hbs' x hx
      exact ⟨a', List.mem_cons_of_mem a ha', s', hs'⟩

/-! ## What tasks come to in all of some states -/

/-- A task comes to a value in each of the given states, and then to another of them. -/
def Yields (h : Handler surroundings σ) (Q : σ → Prop) (t : Task α) (a : α) : Prop :=
  ∀ s, Q s → outcome h t s = .ok a ∧ Q (after h t s)

namespace Yields

variable {h} {Q : σ → Prop}

theorem pure (a : α) : Yields h Q (Pure.pure a) a := fun _ hs => ⟨rfl, hs⟩

theorem bind {t : Task α} {f : α → Task β} {a : α} {b : β} (ht : Yields h Q t a)
    (hf : Yields h Q (f a) b) :
    Yields h Q (t >>= f) b := by
  intro s hs
  obtain ⟨hvalue, hafter⟩ := ht s hs
  rw [outcome_bind_ok f hvalue, after_bind_ok f hvalue]
  exact hf _ hafter

theorem map {t : Task α} {a : α} (ht : Yields h Q t a) (f : α → β) :
    Yields h Q (f <$> t) (f a) := by
  rw [map_eq_pure_bind]
  exact ht.bind (.pure (f a))

theorem mapM {f : α → Task β} {g : α → β} (hf : ∀ a, Yields h Q (f a) (g a)) (l : List α) :
    Yields h Q (l.mapM f) (l.map g) := by
  induction l with
  | nil => exact .pure []
  | cons a rest ih =>
    rw [List.mapM_cons]
    exact (hf a).bind (ih.bind (.pure _))

theorem foldlM {f : β → α → Task β} {g : β → α → β} (hf : ∀ b a, Yields h Q (f b a) (g b a))
    (l : List α) (b : β) : Yields h Q (l.foldlM f b) (l.foldl g b) := by
  induction l generalizing b with
  | nil => exact .pure b
  | cons a rest ih =>
    rw [List.foldlM_cons]
    exact (hf b a).bind (ih _)

end Yields

/-! ## What tasks come to, failed or not -/

/-- A task comes to an outcome in each of the given states, and then to another of them. -/
def Answers (h : Handler surroundings σ) (Q : σ → Prop) (t : Task α) (r : Except Failure α) :
    Prop :=
  ∀ s, Q s → outcome h t s = r ∧ Q (after h t s)

namespace Answers

variable {h} {Q : σ → Prop}

theorem pure (a : α) : Answers h Q (Pure.pure a) (.ok a) := fun _ hs => ⟨rfl, hs⟩

theorem bind {t : Task α} {f : α → Task β} {r : Except Failure α} {g : α → Except Failure β}
    (ht : Answers h Q t r) (hf : ∀ a, Answers h Q (f a) (g a)) :
    Answers h Q (t >>= f) (r >>= g) := by
  intro s hs
  obtain ⟨hvalue, hafter⟩ := ht s hs
  cases r with
  | ok a =>
    rw [outcome_bind_ok f hvalue, after_bind_ok f hvalue]
    exact hf a _ hafter
  | error e =>
    rw [outcome_bind_error f hvalue, after_bind_error f hvalue]
    exact ⟨rfl, hafter⟩

theorem mapM {f : α → Task β} {g : α → Except Failure β} (hf : ∀ a, Answers h Q (f a) (g a))
    (l : List α) :
    Answers h Q (l.mapM f) (l.mapM g) := by
  induction l with
  | nil => exact .pure []
  | cons a rest ih =>
    rw [List.mapM_cons, List.mapM_cons]
    exact (hf a).bind fun b => ih.bind fun bs => .pure (b :: bs)

theorem map {t : Task α} {r : Except Failure α} (ht : Answers h Q t r) (f : α → β) :
    Answers h Q (f <$> t) (f <$> r) := by
  rw [map_eq_pure_bind, map_eq_pure_bind]
  exact ht.bind fun a => .pure (f a)

theorem foldlM {f : β → α → Task β} {g : β → α → Except Failure β}
    (hf : ∀ b a, Answers h Q (f b a) (g b a)) (l : List α) (b : β) :
    Answers h Q (l.foldlM f b) (l.foldlM g b) := by
  induction l generalizing b with
  | nil => exact .pure b
  | cons a rest ih =>
    rw [List.foldlM_cons, List.foldlM_cons]
    exact (hf b a).bind fun b' => ih b'

end Answers

/-! ## What tasks may ask -/

section Asks

variable {I : Interface} {asked : I.Request → Prop} {allowed : Request → Prop}

theorem asks_bind {t : ExceptT Failure (Program I) α} {f : α → ExceptT Failure (Program I) β}
    (ht : t.run.Asks asked) (hf : ∀ a, (f a).run.Asks asked) : (t >>= f).run.Asks asked := by
  rw [ExceptT.run_bind]
  refine ht.bind fun r => ?_
  cases r with
  | ok a => exact hf a
  | error e => trivial

theorem asks_forM {f : α → ExceptT Failure (Program I) Unit} {l : List α}
    (hf : ∀ a ∈ l, (f a).run.Asks asked) : (l.forM f).run.Asks asked := by
  induction l with
  | nil => trivial
  | cons a rest ih =>
    obtain ⟨ha, hrest⟩ := List.forall_mem_cons.mp hf
    exact asks_bind ha fun _ => ih hrest

theorem asks_lift {c : Course α} (hc : c.Asks allowed) : (lift c).run.Asks allowed :=
  hc.bind fun _ => trivial

theorem begins_bind {t : Task α} (ht : t.run.Begins allowed) (f : α → Task β) :
    (t >>= f).run.Begins allowed := by
  rw [ExceptT.run_bind]
  exact ht.bind _

end Asks

/-! ## What tasks fail by -/

section FailsBy

variable {failure? : surroundings.Reply → Option Failure}

/-- Every failure of a task is one that a reply of its run stands for. -/
def FailsBy (failure? : surroundings.Reply → Option Failure) (h : Handler surroundings σ)
    (t : Task α) :
    Prop :=
  ∀ s e, outcome h t s = .error e → ∃ x ∈ transcript h t s, failure? x = some e

theorem failsBy_pure (a : α) : FailsBy failure? h (pure a) := nofun

theorem failsBy_lift (c : Course α) : FailsBy failure? h (lift c) := by
  intro s e he
  rw [outcome_lift] at he
  cases he

variable {h}

theorem failsBy_bind {t : Task α} {f : α → Task β} (ht : FailsBy failure? h t)
    (hf : ∀ a, FailsBy failure? h (f a)) : FailsBy failure? h (t >>= f) := by
  intro s e he
  cases hvalue : outcome h t s with
  | ok a =>
    rw [outcome_bind_ok f hvalue] at he
    obtain ⟨x, hx, hfailure⟩ := hf a _ e he
    rw [transcript_bind_ok f hvalue]
    exact ⟨x, List.mem_append_right _ hx, hfailure⟩
  | error e' =>
    rw [outcome_bind_error f hvalue] at he
    cases he
    rw [transcript_bind_error f hvalue]
    exact ht s e hvalue

end FailsBy

end BrokerFleet.Task

namespace BrokerFleet

variable {β σ : Type} (h : Handler surroundings σ)

theorem transcript_callReplica_bind (t : ReplicaTarget) (c : Call) (f : CallResult → Course β)
    (s : σ) :
    (callReplica t c >>= f).transcript h s =
      ⟨.call t c, (h (.call t c) s).1⟩ :: (f (h (.call t c) s).1).transcript h
        (h (.call t c) s).2 :=
  rfl

theorem run_callReplica_bind (t : ReplicaTarget) (c : Call) (f : CallResult → Course β) (s : σ) :
    (callReplica t c >>= f).run h s = (f (h (.call t c) s).1).run h (h (.call t c) s).2 := rfl

theorem transcript_sendTrigger_bind (t : Trigger) (f : Bool → Course β) (s : σ) :
    (sendTrigger t >>= f).transcript h s =
      ⟨.send t, (h (.send t) s).1⟩ :: (f (h (.send t) s).1).transcript h (h (.send t) s).2 := rfl

theorem run_sendTrigger_bind (t : Trigger) (f : Bool → Course β) (s : σ) :
    (sendTrigger t >>= f).run h s = (f (h (.send t) s).1).run h (h (.send t) s).2 := rfl

end BrokerFleet
