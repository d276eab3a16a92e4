import BrokerFleet.Simulation.Session

/-! # A controller on a virtual clock

A controller passes over the object that it watches at the start, whenever the last pass asked for
it, and whenever a trigger does. Of a pass that is due and a trigger the earlier one wins. Time
moves from one event to the next, so nothing happens between them. -/

namespace BrokerFleet.Simulation

/-- What a controller watches: a pass over it, and what is observed of objects that appear later. -/
structure Watch where
  pass : Session → Except Failure Action × Session
  /-- Takes note of the later objects; whether they trigger a pass. -/
  arrive : Session → Bool × Session

namespace Watch

/-- The watch over an address. The later pods are observed, and those that make its deployment to be
applied again trigger a pass. -/
def address (a : Address) (later : List Stored) : Watch where
  pass s := s.keeping (AddressPass.run s.config a)
  arrive s :=
    let pods := later.filterMap fun
      | .pod p => some p
      | _ => none
    let s := pods.foldl (fun s p => (s.remembering (AddressLifecycle.onPod p)).2) s
    (s.world.triggers.contains (.address a.metadata.key), s)

/-- The clusters that an object belongs to, by namespace and name: a pod by its label, a stateful
set by its owners. -/
def clustersOf : Stored → List (Option String × String)
  | .pod p =>
    match p.metadata.ns, p.metadata.label? clusterLabel with
    | some ns, some cluster => [(some ns, cluster)]
    | _, _ => []
  | .statefulSet s =>
    let owners := (s.metadata.ownerReferences.getD []).filter fun o =>
      o.apiVersion == declarationVersion && o.kind == "BrokerCluster"
    owners.map fun o => (s.metadata.ns, o.name)
  | _ => []

/-- The watch over a cluster. The later objects that belong to it trigger a pass. -/
def cluster (c : Cluster) (later : List Stored) : Watch where
  pass s := s.pass c.key
  arrive s := (later.any fun o => (clustersOf o).contains (c.metadata.ns, c.metadata.anyName), s)

end Watch

/-- What is still to come: the next pass and the arrival of later objects, with their times. -/
structure Agenda where
  pass : Option Nat := some 0
  arrival : Option Nat

namespace Agenda

/-- The agenda after a trigger: a pass at once, unless one is due already. -/
def trigger (a : Agenda) (now : Nat) : Agenda :=
  { a with pass := some (a.pass.elim now (min now)) }

/-- The agenda after a pass. -/
def afterPass (a : Agenda) (now : Nat) : Action → Agenda
  | .awaitChange => { a with pass := none }
  | .requeueAfter millis => { a with pass := some (now + millis) }

end Agenda

/-- What comes next. -/
inductive Happening where
  | pass (millis : Nat)
  | arrival (millis : Nat)
  deriving DecidableEq, Repr

/-- The earliest of what is to come, a pass before an arrival of the same time. -/
def Agenda.next? (a : Agenda) : Option Happening :=
  match a.pass, a.arrival with
  | none, none => none
  | some t, none => some (.pass t)
  | none, some t => some (.arrival t)
  | some t, some u => if t ≤ u then some (.pass t) else some (.arrival u)

namespace Watch

/-- The session at a time. -/
def atTime (s : Session) (millis : Nat) : Session := { s with world := { s.world with millis } }

/-- One happening: what it does to the session and to the agenda. -/
def happen (w : Watch) (h : Happening) (a : Agenda) (s : Session) : Agenda × Session :=
  match h with
  | .pass now =>
    let (result, s) := w.pass (atTime s now)
    let action := match result with
      | .ok action => action
      | .error e => e.policy s.config.resyncMillis
    (a.afterPass now action, s)
  | .arrival now =>
    let (triggered, s) := w.arrive (atTime s now)
    let rest := { a with arrival := none }
    (if triggered then rest.trigger now else rest, s)

def timeOf : Happening → Nat
  | .pass t | .arrival t => t

/-- Everything that happens before a time, in at most so many steps. -/
def runBefore (w : Watch) (deadline : Nat) : Nat → Agenda → Session → Session
  | 0, _, s => s
  | steps + 1, a, s =>
    match a.next? with
    | none => s
    | some h =>
      if timeOf h < deadline then
        let (a, s) := w.happen h a s
        w.runBefore deadline steps a s
      else s

/-- Everything that happens before a time. Every pass but the first and one that is triggered comes
at least a millisecond after the one before, so the time bounds the number of steps. -/
def run (w : Watch) (deadline : Nat) (arrival : Option Nat) (s : Session) : Session :=
  w.runBefore deadline (deadline + 3) { arrival } s

end Watch

end BrokerFleet.Simulation
