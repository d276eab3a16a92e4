import BrokerFleet.Proofs.Program.Keeping

/-! # Programs under a contract

A contract says what a program may ask, as long as it can rely on the answers. A program under a
contract is run alike by all surroundings that answer alike what the contract allows, whatever they
do with other requests. -/

namespace BrokerFleet

/-- What a program may ask, and what it may rely on when it is answered. -/
structure Contract (I : Interface) where
  allowed : I.Request → Prop
  given : I.Reply → Prop

variable {I : Interface} {C : Contract I} {α β σ₁ σ₂ : Type}

namespace Program

/-- A program keeps to a contract and comes to a value of which something holds. -/
def Confined (C : Contract I) (P : α → Prop) : Program I α → Prop
  | done value => P value
  | ask r next => C.allowed r ∧ ∀ a, C.given ⟨r, a⟩ → (next a).Confined C P

namespace Confined

variable {P : α → Prop} {R : β → Prop} {p : Program I α} {f : α → Program I β}

theorem bind (hp : p.Confined C P) (hf : ∀ a, P a → (f a).Confined C R) :
    (p >>= f).Confined C R := by
  induction p with
  | done a => exact hf a hp
  | ask r k ih => exact ⟨hp.1, fun a ha => ih a (hp.2 a ha)⟩

theorem mono {P' : α → Prop} (hp : p.Confined C P) (h : ∀ a, P a → P' a) : p.Confined C P' := by
  induction p with
  | done a => exact h a hp
  | ask r k ih => exact ⟨hp.1, fun a ha => ih a (hp.2 a ha)⟩

theorem of_asks {allowed : I.Request → Prop} (hp : p.Asks allowed)
    (h : ∀ r, allowed r → C.allowed r) :
    p.Confined C fun _ => True := by
  induction p with
  | done a => trivial
  | ask r k ih => exact ⟨h r hp.1, fun a _ => ih a (hp.2 a)⟩

/-- The values of a program on each item of a list are each one that it may have on an item. -/
theorem each {P : α → β → Prop} {l : List α} (hf : ∀ a ∈ l, (f a).Confined C (P a)) :
    (Program.each f l).Confined C fun bs => ∀ b ∈ bs, ∃ a ∈ l, P a b := by
  induction l with
  | nil => exact nofun
  | cons a rest ih =>
    obtain ⟨ha, hrest⟩ := List.forall_mem_cons.mp hf
    refine ha.bind fun b hb => (ih hrest).bind fun bs hbs => ?_
    refine List.forall_mem_cons.mpr ⟨⟨a, List.mem_cons_self, hb⟩, fun b' hb' => ?_⟩
    obtain ⟨a', ha', hP⟩ := hbs b' hb'
    exact ⟨a', List.mem_cons_of_mem a ha', hP⟩

/-- A run that is answered as the contract says asks what the contract allows. -/
theorem transcript (hp : p.Confined C P) {σ : Type} (h : Handler I σ) (s : σ)
    (hgiven : ∀ x ∈ p.transcript h s, C.given x) : ∀ x ∈ p.transcript h s, C.allowed x.1 := by
  induction p generalizing s with
  | done a => exact nofun
  | ask r k ih =>
    obtain ⟨hanswer, hrest⟩ := List.forall_mem_cons.mp hgiven
    exact List.forall_mem_cons.mpr ⟨hp.1, ih _ (hp.2 _ hanswer) _ hrest⟩

/-- Surroundings that keep a contract alike run a program under the contract alike. -/
theorem run_congr (hp : p.Confined C P) (h₁ : Handler I σ₁) (h₂ : Handler I σ₂) (S : σ₁ → σ₂ → Prop)
    (alike : ∀ r, C.allowed r → ∀ s₁ s₂, S s₁ s₂ → (h₁ r s₁).1 = (h₂ r s₂).1 ∧
      C.given ⟨r, (h₁ r s₁).1⟩ ∧ S (h₁ r s₁).2 (h₂ r s₂).2) {s₁ : σ₁} {s₂ : σ₂} (hs : S s₁ s₂) :
    (p.run h₁ s₁).1 = (p.run h₂ s₂).1 ∧ p.transcript h₁ s₁ = p.transcript h₂ s₂ ∧
      (∀ x ∈ p.transcript h₁ s₁, C.allowed x.1) ∧ S (p.run h₁ s₁).2 (p.run h₂ s₂).2 := by
  induction p generalizing s₁ s₂ with
  | done a => exact ⟨rfl, rfl, nofun, hs⟩
  | ask r k ih =>
    obtain ⟨hanswer, hgiven, hnext⟩ := alike r hp.1 s₁ s₂ hs
    obtain ⟨hvalue, htranscript, hallowed, hstate⟩ := ih (h₁ r s₁).1 (hp.2 _ hgiven) hnext
    simp only [run, Program.transcript]
    rw [← hanswer]
    exact ⟨hvalue, congrArg _ htranscript, List.forall_mem_cons.mpr ⟨hp.1, hallowed⟩, hstate⟩

end Confined

end Program

/-! ## Tasks -/

namespace Task

variable {C : Contract surroundings}

/-- A task keeps to a contract, and something holds of the value that it may come to. -/
def Confined (C : Contract surroundings) (P : α → Prop) (t : Task α) : Prop :=
  t.run.Confined C fun r => ∀ a, r = .ok a → P a

namespace Confined

variable {P : α → Prop} {R : β → Prop}

theorem pure {a : α} (ha : P a) : Confined C P (Pure.pure a) := by
  rintro _ ⟨⟩
  exact ha

theorem throw (e : Failure) : Confined C P (throw e) := nofun

theorem bind {t : Task α} {f : α → Task β} (ht : Confined C P t)
    (hf : ∀ a, P a → Confined C R (f a)) :
    Confined C R (t >>= f) := by
  unfold Confined
  rw [ExceptT.run_bind]
  refine Program.Confined.bind ht fun r hr => ?_
  cases r with
  | ok a => exact hf a (hr a rfl)
  | error e => exact nofun

theorem map {t : Task α} {g : α → β} (ht : Confined C P t) (hg : ∀ a, P a → R (g a)) :
    Confined C R (g <$> t) := by
  rw [map_eq_pure_bind]
  exact ht.bind fun a ha => .pure (hg a ha)

theorem lift {c : Course α} (hc : c.Confined C P) : Confined C P (Task.lift c) := by
  refine Program.Confined.bind hc fun a ha => ?_
  rintro _ ⟨⟩
  exact ha

theorem attempt {t : Task α} (ht : Confined C P t) : Confined C (fun _ => True) t.attempt :=
  lift (ht.mono fun _ _ => trivial)

theorem mapM {f : α → Task β} {l : List α} (hf : ∀ a ∈ l, Confined C R (f a)) :
    Confined C (fun bs => ∀ b ∈ bs, R b) (l.mapM f) := by
  induction l with
  | nil => exact .pure nofun
  | cons a rest ih =>
    obtain ⟨ha, hrest⟩ := List.forall_mem_cons.mp hf
    rw [List.mapM_cons]
    exact ha.bind fun b hb => (ih hrest).bind fun bs hbs =>
      .pure (List.forall_mem_cons.mpr ⟨hb, hbs⟩)

theorem foldlM {f : β → α → Task β} {l : List α} (hf : ∀ a ∈ l, ∀ b, R b → Confined C R (f b a))
    {b : β} (hb : R b) : Confined C R (l.foldlM f b) := by
  induction l generalizing b with
  | nil => exact .pure hb
  | cons a rest ih =>
    obtain ⟨ha, hrest⟩ := List.forall_mem_cons.mp hf
    rw [List.foldlM_cons]
    exact (ha b hb).bind fun _ hb' => ih hrest hb'

end Confined

end Task

/-! ## Tasks that keep a memory -/

namespace Keeping

variable {C : Contract surroundings}

/-- A task that keeps a memory keeps to a contract, whatever is remembered. -/
def Confined (C : Contract surroundings) (t : Keeping α) : Prop :=
  ∀ m, (t.run.run m).Confined C fun _ => True

namespace Confined

theorem pure (a : α) : Confined C (Pure.pure a : Keeping α) := fun _ => trivial

/-- A failure leaves nothing to be asked. -/
theorem throw_bind (e : Failure) (f : α → Keeping β) : Confined C (throw e >>= f) :=
  fun _ => trivial

theorem get : Confined C (get : Keeping AddressMemory) := fun _ => trivial

theorem modify (g : AddressMemory → AddressMemory) : Confined C (modify g : Keeping Unit) :=
  fun _ => trivial

theorem ofTask {P : α → Prop} {t : Task α} (ht : t.Confined C P) :
    Confined C (AddressLifecycle.ofTask t) :=
  fun _ => Program.Confined.bind ht fun _ _ => trivial

theorem bind {t : Keeping α} {f : α → Keeping β} (ht : Confined C t) (hf : ∀ a, Confined C (f a)) :
    Confined C (t >>= f) := by
  intro m
  rw [Runs.run_bind]
  refine (ht m).bind fun r _ => ?_
  obtain ⟨_ | a, m'⟩ := r
  · trivial
  · exact hf a m'

end Confined

end Keeping

end BrokerFleet
