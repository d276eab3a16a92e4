/-! # Programs that ask and are answered

A program either is done with a value or asks a request and goes on with the answer. What surrounds
the program is a handler: it answers each request and may change a state of its own. One program can
so be run against every store, every behaviour of the brokers and every clock. -/

namespace BrokerFleet

/-- The requests that a program may ask and the type of answer to each. -/
structure Interface where
  Request : Type
  Answer : Request → Type

/-- A finite tree of requests, branching on their answers, with values at its leaves. -/
inductive Program (I : Interface) (α : Type) : Type where
  | done (value : α)
  | ask (request : I.Request) (next : I.Answer request → Program I α)

/-- What answers requests: each answer may depend on a state and change it. -/
abbrev Handler (I : Interface) (σ : Type) := (request : I.Request) → σ → I.Answer request × σ

namespace Program

variable {I : Interface} {α β γ σ : Type}

/-- Runs a second program on the value of the first. -/
protected def bind : Program I α → (α → Program I β) → Program I β
  | done value, f => f value
  | ask request next, f => ask request fun answer => (next answer).bind f

instance : Monad (Program I) where
  pure := done
  bind := Program.bind

def request (r : I.Request) : Program I (I.Answer r) := ask r done

@[simp] theorem pure_def (a : α) : (pure a : Program I α) = done a := rfl

@[simp] theorem done_bind (a : α) (f : α → Program I β) : (done a >>= f) = f a := rfl

@[simp] theorem ask_bind (r : I.Request) (k : I.Answer r → Program I α) (f : α → Program I β) :
    (ask r k >>= f) = ask r fun a => k a >>= f := rfl

theorem bind_done (p : Program I α) : (p >>= done) = p := by
  induction p with
  | done => rfl
  | ask r k ih => simp [ih]

theorem bind_assoc (p : Program I α) (f : α → Program I β) (g : β → Program I γ) :
    (p >>= f >>= g) = p >>= fun a => f a >>= g := by
  induction p with
  | done => rfl
  | ask r k ih => simp [ih]

theorem map_eq_bind_done (f : α → β) (p : Program I α) : f <$> p = p >>= fun a => done (f a) := rfl

instance : LawfulMonad (Program I) :=
  LawfulMonad.mk' (Program I) (fun x => bind_done x) (fun _ _ => rfl) fun x f g => bind_assoc x f g

/-! ## Running -/

/-- The value and the final state of a program under a handler. -/
def run (h : Handler I σ) : Program I α → σ → α × σ
  | done value, s => (value, s)
  | ask request next, s => (next (h request s).1).run h (h request s).2

@[simp] theorem run_done (h : Handler I σ) (a : α) (s : σ) :
    (done a : Program I α).run h s = (a, s) :=
  rfl

@[simp] theorem run_request (h : Handler I σ) (r : I.Request) (s : σ) :
    (request r).run h s = h r s := rfl

theorem run_bind (h : Handler I σ) (p : Program I α) (f : α → Program I β) (s : σ) :
    (p >>= f).run h s = (f (p.run h s).1).run h (p.run h s).2 := by
  induction p generalizing s with
  | done => rfl
  | ask r k ih => exact ih (h r s).1 (h r s).2

/-- Runs a program on each item of a list, in order, and collects the values. -/
def each (f : α → Program I β) : List α → Program I (List β)
  | [] => done []
  | a :: rest => do
    let b ← f a
    let bs ← each f rest
    pure (b :: bs)

/-- Answers the requests of one interface by programs over another. -/
def translate {J : Interface} (f : (r : I.Request) → Program J (I.Answer r)) :
    Program I α → Program J α
  | done value => done value
  | ask r next => f r >>= fun a => (next a).translate f

end Program

end BrokerFleet
