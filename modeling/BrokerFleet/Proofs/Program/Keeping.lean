import BrokerFleet.Address.Lifecycle
import BrokerFleet.Proofs.Program.Task

/-! # Tasks that keep a memory

A run of such a task goes from a memory and a state of the surroundings to others, asks, and comes
to something. Runs are put together like the tasks themselves; what was remembered before a failure
stays remembered. -/

namespace BrokerFleet

/-- A task runs from a memory and a state, asks, and comes to an outcome, a memory and a state. -/
structure Keeping.Runs {α σ : Type} (h : Handler surroundings σ) (t : Keeping α) (m : AddressMemory)
    (s : σ) (log : List surroundings.Reply) (outcome : Except Failure α) (m' : AddressMemory)
    (s' : σ) : Prop where
  asked : (t.run.run m).transcript h s = log
  comesTo : (t.run.run m).run h s = ((outcome, m'), s')

namespace Keeping.Runs

variable {α β σ : Type} {h : Handler surroundings σ} {t : Keeping α} {f : α → Keeping β}
  {m m' m'' : AddressMemory} {s s' s'' : σ} {log log' : List surroundings.Reply}

/-! ## Single steps -/

theorem pure (h : Handler surroundings σ) (a : α) (m : AddressMemory) (s : σ) :
    Runs h (pure a) m s [] (.ok a) m s := ⟨rfl, rfl⟩

theorem throw (h : Handler surroundings σ) (e : Failure) (m : AddressMemory) (s : σ) :
    Runs h (throw e : Keeping α) m s [] (.error e) m s := ⟨rfl, rfl⟩

theorem get (h : Handler surroundings σ) (m : AddressMemory) (s : σ) :
    Runs h get m s [] (.ok m) m s := ⟨rfl, rfl⟩

theorem modify (h : Handler surroundings σ) (g : AddressMemory → AddressMemory) (m : AddressMemory)
    (s : σ) : Runs h (modify g) m s [] (.ok ()) (g m) s := ⟨rfl, rfl⟩

/-- A task that does not touch the memory leaves it alone. -/
theorem ofTask (h : Handler surroundings σ) (t : Task α) (m : AddressMemory) (s : σ) :
    Runs h (AddressLifecycle.ofTask t) m s (Task.transcript h t s) (Task.outcome h t s) m
      (Task.after h t s) := by
  have hrun : (AddressLifecycle.ofTask t).run.run m = t.run >>= fun r => Pure.pure (r, m) := rfl
  constructor
  · simp [hrun, Program.transcript_bind, Task.transcript]
  · simp [hrun, Program.run_bind, Task.outcome, Task.after]

/-! ## One after the other -/

theorem run_bind (t : Keeping α) (f : α → Keeping β) (m : AddressMemory) :
    (t >>= f).run.run m = t.run.run m >>= fun r =>
      match r.1 with
      | .ok a => (f a).run.run r.2
      | .error e => Pure.pure (.error e, r.2) := by
  rw [ExceptT.run_bind, StateT.run_bind]
  congr 1
  funext r
  obtain ⟨_ | a, m⟩ := r <;> rfl

theorem bind {a : α} {outcome : Except Failure β} (ht : Runs h t m s log (.ok a) m' s')
    (hf : Runs h (f a) m' s' log' outcome m'' s'') :
    Runs h (t >>= f) m s (log ++ log') outcome m'' s'' := by
  constructor
  · rw [run_bind, Program.transcript_bind, ht.asked, ht.comesTo]
    exact congrArg (log ++ ·) hf.asked
  · rw [run_bind, Program.run_bind, ht.comesTo]
    exact hf.comesTo

theorem bind_pure {a : α} (b : β) (ht : Runs h t m s log (.ok a) m' s') :
    Runs h (t >>= fun _ => Pure.pure b) m s log (.ok b) m' s' := by
  have hruns := ht.bind (f := fun _ => Pure.pure b) (.pure h b m' s')
  rwa [List.append_nil] at hruns

theorem bind_error {e : Failure} (ht : Runs h t m s log (.error e) m' s') :
    Runs h (t >>= f) m s log (.error e) m' s' := by
  constructor
  · rw [run_bind, Program.transcript_bind, ht.asked, ht.comesTo]
    simp
  · rw [run_bind, Program.run_bind, ht.comesTo]
    rfl

/-! ## Taken apart -/

/-- Every task runs from everywhere. -/
theorem total (h : Handler surroundings σ) (t : Keeping α) (m : AddressMemory) (s : σ) :
    ∃ log outcome m' s', Runs h t m s log outcome m' s' := ⟨_, _, _, _, rfl, rfl⟩

theorem unique {outcome outcome' : Except Failure α} (hruns : Runs h t m s log outcome m' s')
    (hruns' : Runs h t m s log' outcome' m'' s'') :
    log = log' ∧ outcome = outcome' ∧ m' = m'' ∧ s' = s'' := by
  have hcomesTo := hruns.comesTo.symm.trans hruns'.comesTo
  simp only [Prod.mk.injEq] at hcomesTo
  exact ⟨hruns.asked.symm.trans hruns'.asked, hcomesTo.1.1, hcomesTo.1.2, hcomesTo.2⟩

/-- A run that comes to a value went through the first part and then through the second. -/
theorem of_bind {b : β} (hruns : Runs h (t >>= f) m s log (.ok b) m'' s'') : ∃ a log₁ m' s' log₂,
    Runs h t m s log₁ (.ok a) m' s' ∧ Runs h (f a) m' s' log₂ (.ok b) m'' s'' ∧
      log = log₁ ++ log₂ := by
  obtain ⟨log₁, outcome, m', s', hfirst⟩ := total h t m s
  cases outcome with
  | error e =>
    obtain ⟨-, houtcome, -, -⟩ := hruns.unique hfirst.bind_error
    cases houtcome
  | ok a =>
    obtain ⟨log₂, outcome, m₂, s₂, hsecond⟩ := total h (f a) m' s'
    obtain ⟨rfl, rfl, rfl, rfl⟩ := hruns.unique (hfirst.bind hsecond)
    exact ⟨a, log₁, m', s', log₂, hfirst, hsecond, rfl⟩

end Keeping.Runs

end BrokerFleet
