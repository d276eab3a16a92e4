import BrokerFleet.Surroundings

/-! # The registry of config handlers

Each owner has at most one handler. Removing a handler, or registering one by force, asks for a pass
over every cluster that the handler applies to. -/

namespace BrokerFleet

abbrev HandlerRegistry := Dict ObjectKey ConfigHandler

namespace HandlerRegistry

/-- A task that changes the registry; it keeps what it changed before a failure. -/
abbrev Registering (α : Type) := ExceptT Failure (StateT HandlerRegistry (Program surroundings)) α

/-- A task that leaves the registry alone. -/
def ofTask {α : Type} (t : Task α) : Registering α := ExceptT.mk (StateT.lift t.run)

/-- Asks for a pass over each of the clusters that a handler applies to, until no one listens; the
number of those asked for. -/
def sendEach (h : ConfigHandler) : List Cluster → Course Nat
  | [] => pure 0
  | c :: rest => do
    if h.appliesTo c.key then
      if ← sendTrigger (.cluster c.metadata.ns c.metadata.anyName) then
        let more ← sendEach h rest
        pure (more + 1)
      else pure 0
    else sendEach h rest

/-- Asks for a pass over every cluster that a handler applies to. -/
def fanOut (h : ConfigHandler) : Task Nat := do
  let clusters ← Task.listClusters none
  Task.lift (sendEach h clusters)

/-- Installs the handler of an owner in the place of an earlier one. -/
def register (owner : ObjectKey) (h : ConfigHandler) (force : Bool) : Registering Unit := do
  modify fun (r : HandlerRegistry) => r.insert owner h
  if force then
    let _ ← ofTask (fanOut h)

def unregister (owner : ObjectKey) : Registering Unit := do
  let r ← (get : StateT HandlerRegistry (Program surroundings) HandlerRegistry)
  match r.get? owner with
  | none => pure ()
  | some h =>
    set (r.erase owner)
    let _ ← ofTask (fanOut h)

/-- The first handler, in the order of owners, that applies to a cluster. -/
def lookup (r : HandlerRegistry) (cluster : ObjectKey) : Option ConfigHandler :=
  r.values.find? (·.appliesTo cluster)

end HandlerRegistry

end BrokerFleet
