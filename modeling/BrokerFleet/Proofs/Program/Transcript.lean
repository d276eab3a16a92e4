import BrokerFleet.Program

/-! # Transcripts

A transcript lists what a program asked together with what it was answered. It is all that the
surroundings see of a run. A program that is run on each item of a list leaves one part of the
transcript an item, in the order of the items. -/

namespace BrokerFleet

/-- A request with the answer that it got. -/
abbrev Interface.Reply (I : Interface) := (r : I.Request) × I.Answer r

/-- An entry of a log in two parts stands in the one or in the other. -/
theorem place_of_append {α : Type} {xs ys before after : List α} {a : α}
    (h : xs ++ ys = before ++ a :: after) :
    (∃ between, xs = before ++ a :: between) ∨
    ∃ between, before = xs ++ between ∧ ys = between ++ a :: after := by
  obtain ⟨between, hbefore, hys⟩ | ⟨between, hxs, hafter⟩ := List.append_eq_append_iff.mp h
  · exact .inr ⟨between, hbefore, hys⟩
  · cases between with
    | nil => exact .inr ⟨[], by simpa using hxs.symm, hafter.symm⟩
    | cons b between =>
      obtain ⟨rfl, -⟩ := List.cons.inj hafter
      exact .inl ⟨between, hxs⟩

namespace Program

variable {I : Interface} {α β γ σ σ₁ σ₂ : Type}

/-- What a program asks under a handler, in order, each request with its answer. -/
def transcript (h : Handler I σ) : Program I α → σ → List I.Reply
  | done _, _ => []
  | ask r next, s => ⟨r, (h r s).1⟩ :: (next (h r s).1).transcript h (h r s).2

@[simp] theorem transcript_done (h : Handler I σ) (a : α) (s : σ) :
    (done a : Program I α).transcript h s = [] := rfl

theorem transcript_bind (h : Handler I σ) (p : Program I α) (f : α → Program I β) (s : σ) :
    (p >>= f).transcript h s =
      p.transcript h s ++ (f (p.run h s).1).transcript h (p.run h s).2 := by
  induction p generalizing s with
  | done => rfl
  | ask r k ih => exact congrArg (_ :: ·) (ih (h r s).1 (h r s).2)

/-- What holds of every answer that the surroundings may give holds of every reply. -/
theorem forall_transcript {h : Handler I σ} {P : I.Reply → Prop} (hanswer : ∀ r s, P ⟨r, (h r s).1⟩)
    (p : Program I α) (s : σ) : ∀ x ∈ p.transcript h s, P x := by
  induction p generalizing s with
  | done a => simp
  | ask r k ih => exact List.forall_mem_cons.mpr ⟨hanswer r s, ih _ _⟩

/-! ## What may be asked -/

/-- Whether a program asks only such requests, however it is answered. -/
def Asks (allowed : I.Request → Prop) : Program I α → Prop
  | done _ => True
  | ask r next => allowed r ∧ ∀ a, (next a).Asks allowed

theorem Asks.bind {allowed : I.Request → Prop} {p : Program I α} {f : α → Program I β}
    (hp : p.Asks allowed) (hf : ∀ a, (f a).Asks allowed) : (p >>= f).Asks allowed := by
  induction p with
  | done a => exact hf a
  | ask r k ih => exact ⟨hp.1, fun a => ih a (hp.2 a)⟩

theorem Asks.mono {allowed more : I.Request → Prop} {p : Program I α} (hp : p.Asks allowed)
    (h : ∀ r, allowed r → more r) : p.Asks more := by
  induction p with
  | done a => trivial
  | ask r k ih => exact ⟨h r hp.1, fun a => ih a (hp.2 a)⟩

theorem Asks.each {allowed : I.Request → Prop} {f : α → Program I β} (hf : ∀ a, (f a).Asks allowed)
    (l : List α) : (each f l).Asks allowed := by
  induction l with
  | nil => trivial
  | cons a rest ih => exact (hf a).bind fun b => ih.bind fun bs => trivial

theorem Asks.transcript {allowed : I.Request → Prop} {p : Program I α} (hp : p.Asks allowed)
    (h : Handler I σ) (s : σ) : ∀ x ∈ p.transcript h s, allowed x.1 := by
  induction p generalizing s with
  | done a => simp
  | ask r k ih =>
    intro x hx
    rcases List.mem_cons.mp hx with rfl | hx
    · exact hp.1
    · exact ih _ (hp.2 _) _ x hx

/-- What every request that a program may ask keeps of the state, the program keeps. -/
theorem Asks.preserves {allowed : I.Request → Prop} {p : Program I α} (hp : p.Asks allowed)
    {h : Handler I σ} {Q : σ → Prop} (kept : ∀ r, allowed r → ∀ s, Q s → Q (h r s).2) {s : σ}
    (hs : Q s) : Q (p.run h s).2 := by
  induction p generalizing s with
  | done a => exact hs
  | ask r k ih => exact ih _ (hp.2 _) (kept r hp.1 s hs)

/-- Each answer of a run was given in a state on the way: what every request that may be asked keeps
of the state comes from the first state to that one, and from the state after that answer to the
last. -/
theorem Asks.answered_between {allowed : I.Request → Prop} {p : Program I α} (hp : p.Asks allowed)
    {h : Handler I σ} {s : σ} {x : I.Reply} (hx : x ∈ p.transcript h s) :
    ∃ s₁, x.2 = (h x.1 s₁).1 ∧ ∀ Q : σ → Prop, (∀ r, allowed r → ∀ s, Q s → Q (h r s).2) →
      (Q s → Q s₁) ∧ (Q (h x.1 s₁).2 → Q (p.run h s).2) := by
  induction p generalizing s with
  | done a => cases hx
  | ask r k ih =>
    rcases List.mem_cons.mp hx with rfl | hlater
    · exact ⟨s, rfl, fun Q kept => ⟨id, (hp.2 _).preserves kept⟩⟩
    · obtain ⟨s₁, hanswer, hway⟩ := ih _ (hp.2 _) hlater
      exact ⟨s₁, hanswer, fun Q kept =>
        ⟨fun hs => (hway Q kept).1 (kept r hp.1 s hs), (hway Q kept).2⟩⟩

/-- What every request that a program asked keeps of the state, the run keeps. -/
theorem preserves_of_transcript {h : Handler I σ} {allowed : I.Request → Prop} {Q : σ → Prop}
    (kept : ∀ r, allowed r → ∀ s, Q s → Q (h r s).2) {p : Program I α} {s : σ}
    (hasked : ∀ x ∈ p.transcript h s, allowed x.1) (hs : Q s) : Q (p.run h s).2 := by
  induction p generalizing s with
  | done a => exact hs
  | ask r k ih =>
    obtain ⟨hr, hrest⟩ := List.forall_mem_cons.mp hasked
    exact ih _ hrest (kept r hr s hs)

/-- Two handlers that answer alike whatever a program may ask, and stay related, run it alike. -/
theorem Asks.run_congr {allowed : I.Request → Prop} {p : Program I α} (hp : p.Asks allowed)
    (h₁ : Handler I σ₁) (h₂ : Handler I σ₂) (R : σ₁ → σ₂ → Prop)
    (alike : ∀ r, allowed r → ∀ s₁ s₂, R s₁ s₂ →
      (h₁ r s₁).1 = (h₂ r s₂).1 ∧ R (h₁ r s₁).2 (h₂ r s₂).2)
    {s₁ : σ₁} {s₂ : σ₂} (hs : R s₁ s₂) :
    (p.run h₁ s₁).1 = (p.run h₂ s₂).1 ∧ p.transcript h₁ s₁ = p.transcript h₂ s₂ ∧
      R (p.run h₁ s₁).2 (p.run h₂ s₂).2 := by
  induction p generalizing s₁ s₂ with
  | done a => exact ⟨rfl, rfl, hs⟩
  | ask r k ih =>
    obtain ⟨hanswer, hnext⟩ := alike r hp.1 s₁ s₂ hs
    obtain ⟨hvalue, htranscript, hstate⟩ := ih (h₁ r s₁).1 (hp.2 _) hnext
    simp only [run, Program.transcript]
    rw [← hanswer]
    exact ⟨hvalue, congrArg _ htranscript, hstate⟩

/-- Whether a program begins by asking such a request. -/
def Begins (wanted : I.Request → Prop) : Program I α → Prop
  | done _ => False
  | ask r _ => wanted r

theorem Begins.bind {wanted : I.Request → Prop} {p : Program I α} (hp : p.Begins wanted)
    (f : α → Program I β) : (p >>= f).Begins wanted := by
  cases p with
  | done a => cases hp
  | ask r k => exact hp

theorem Begins.transcript {wanted : I.Request → Prop} {p : Program I α} (hp : p.Begins wanted)
    (h : Handler I σ) (s : σ) : ∃ x ∈ p.transcript h s, wanted x.1 := by
  cases p with
  | done a => cases hp
  | ask r k => exact ⟨_, List.mem_cons_self, hp⟩

/-! ## Item after item -/

/-- What holds of a program on every item, described by what it asked and by its value, holds of its
run on each item of a list: one description an item, in the order of the items. -/
theorem each_described (h : Handler I σ) {f : α → Program I β} (item : γ → α)
    (asked : γ → List I.Reply) (value : γ → β) (P : γ → Prop)
    (hf : ∀ a s, ∃ c, item c = a ∧ P c ∧ (f a).transcript h s = asked c ∧
      ((f a).run h s).1 = value c) (l : List α) (s : σ) :
    ∃ cs : List γ, cs.map item = l ∧ (∀ c ∈ cs, P c) ∧
      (each f l).transcript h s = cs.flatMap asked ∧ ((each f l).run h s).1 = cs.map value := by
  induction l generalizing s with
  | nil => exact ⟨[], rfl, by simp, rfl, rfl⟩
  | cons a rest ih =>
    obtain ⟨c, hitem, hc, hasked, hvalue⟩ := hf a s
    obtain ⟨cs, hitems, hcs, hrest, hvalues⟩ := ih ((f a).run h s).2
    refine ⟨c :: cs, by simp [hitem, hitems], ?_, ?_, ?_⟩
    · exact List.forall_mem_cons.mpr ⟨hc, hcs⟩
    · simp [each, transcript_bind, hasked, hrest]
    · simp [each, run_bind, hvalue, hvalues]

end Program

end BrokerFleet
