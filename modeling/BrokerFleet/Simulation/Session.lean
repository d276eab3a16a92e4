import BrokerFleet.Cluster.Pass
import BrokerFleet.Simulation.World

/-! # An operator in a world

A session joins a world with what an operator keeps in memory. A restart loses the memory and
nothing else. -/

namespace BrokerFleet.Simulation

/-- An operator and its world. -/
structure Session where
  config : Config
  world : World
  registry : HandlerRegistry := Dict.empty
  memory : AddressMemory := {}

namespace Session

variable {α : Type}

/-- Runs a course that keeps nothing in memory. -/
def course (c : Course α) (s : Session) : α × Session :=
  let (a, world) := c.run World.answer s.world
  (a, { s with world })

/-- Runs a task that keeps nothing in memory. -/
def task (t : Task α) (s : Session) : Except Failure α × Session := s.course t.run

/-- Runs a course of the address controller. -/
def remembering (c : StateT AddressMemory (Program surroundings) α) (s : Session) : α × Session :=
  let ((a, memory), world) := (c.run s.memory).run World.answer s.world
  (a, { s with memory, world })

/-- Runs a task of the address controller. -/
def keeping (k : Keeping α) (s : Session) : Except Failure α × Session := s.remembering k.run

/-- Runs a task of the registry of config handlers. -/
def registering (r : HandlerRegistry.Registering α) (s : Session) : Except Failure α × Session :=
  let ((a, registry), world) := (r.run.run s.registry).run World.answer s.world
  (a, { s with registry, world })

def pass (key : ObjectKey) (s : Session) : Except Failure Action × Session :=
  s.task (ClusterPass.run s.config s.registry key)

/-- Replaces the operator by a new one in the same world. -/
def restart (s : Session) : Session :=
  { config := s.config, world := { s.world with listening := true } }

/-- What was logged and asked for since the last look, and the session with both forgotten. -/
def observe (s : Session) : List Entry × List Trigger × Session :=
  (s.world.log, s.world.triggers, { s with world := { s.world with log := [], triggers := [] } })

/-- The time of every condition in the status of a cluster, set anew. -/
def setTimes (time : String) (c : Cluster) : Cluster :=
  { c with status := c.status.map fun st =>
    { st with conditions := st.conditions.map fun d =>
      { d with lastTransitionTime := some time } } }

end Session

end BrokerFleet.Simulation
