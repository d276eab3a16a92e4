import BrokerFleet.Management.Call
import BrokerFleet.Proofs.Dict.Lookup
import BrokerFleet.Proofs.Store.Reading
import Mathlib.Data.Finset.Insert

/-! # Brokers that keep what they are told

A broker keeps a set of addresses and a map of queues. It refuses to create what is there, carries
out what it does not refuse, and may fail in other ways, whether it has carried out the call by then
or not. -/

namespace BrokerFleet

/-- A queue as a broker keeps it. -/
structure BrokerQueue where
  address : String
  config : String
  deriving DecidableEq

/-- What a broker keeps. -/
structure Broker where
  addresses : Finset String
  queues : Dict String BrokerQueue

/-- Which queue a broker takes a configuration to describe, and at which address. -/
structure ConfigReading where
  queue : String → String
  address : String → String

/-- Whether a failure only says that what a call creates is there. -/
def Call.saysPresent : Call → CallFailure → Bool
  | .createAddress _ _, e => e.code == some .addressAlreadyExists
  | .createQueue _ _, e => e.code == some .queueAlreadyExists
  | _, _ => false

/-- Whether a call creates or updates something. -/
def Call.brings : Call → Bool
  | .createAddress _ _ | .createQueue _ _ | .updateQueue _ => true
  | _ => false

namespace Broker

variable (reading : ConfigReading) {b b' : Broker} {c : Call}

/-- A broker after a call that brings something; creating a queue that is there changes nothing. -/
def carryOut (b : Broker) : Call → Broker
  | .createAddress name _ => { b with addresses := insert name b.addresses }
  | .createQueue config _ =>
    if b.queues.contains (reading.queue config) then b
    else { b with
      queues := b.queues.insert (reading.queue config) ⟨reading.address config, config⟩ }
  | .updateQueue config =>
    match b.queues.get? (reading.queue config) with
    | some q => { b with queues := b.queues.insert (reading.queue config) { q with config } }
    | none => b
  | _ => b

/-- Whether a broker says that what a call creates is there. -/
def refuses (b : Broker) : Call → Bool
  | .createAddress name _ => name ∈ b.addresses
  | .createQueue config ignoreIfExists =>
    b.queues.contains (reading.queue config) && !ignoreIfExists
  | _ => false

/-- How a broker may answer a call and what it keeps then. -/
inductive Serves (b : Broker) (c : Call) : CallResult → Broker → Prop where
  | done (v : Json) (h : b.refuses reading c = false) : Serves b c (.ok v) (b.carryOut reading c)
  | refused (e : CallFailure) (h : b.refuses reading c = true) (he : c.saysPresent e = true) :
      Serves b c (.error e) b
  | lost (e : CallFailure) (he : c.saysPresent e = false) : Serves b c (.error e) b
  | landed (e : CallFailure) (he : c.saysPresent e = false) :
      Serves b c (.error e) (b.carryOut reading c)

namespace Serves

variable {reading}

theorem eq_or_carryOut {r : CallResult} (h : Serves reading b c r b') :
    b' = b ∨ b' = b.carryOut reading c := by
  cases h with
  | done => exact .inr rfl
  | refused => exact .inl rfl
  | lost => exact .inl rfl
  | landed => exact .inr rfl

theorem of_ok {v : Json} (h : Serves reading b c (.ok v) b') :
    b.refuses reading c = false ∧ b' = b.carryOut reading c := by
  cases h with
  | done _ h => exact ⟨h, rfl⟩

theorem of_present {e : CallFailure} (h : Serves reading b c (.error e) b')
    (he : c.saysPresent e = true) : b.refuses reading c = true ∧ b' = b := by
  cases h with
  | refused _ h => exact ⟨h, rfl⟩
  | lost _ h => exact absurd (h.symm.trans he) (by simp)
  | landed _ h => exact absurd (h.symm.trans he) (by simp)

end Serves

end Broker

/-- Surroundings in which every replica is a broker of its own, told apart by its domain name: only
a call to a replica changes what it keeps. -/
structure Brokered {σ : Type} (reading : ConfigReading) (h : Handler surroundings σ)
    (brokers : σ → String → Broker) : Prop where
  served : ∀ t c s, c.brings = true → Broker.Serves reading (brokers s t.fqdn) c
    (h (.call t c) s).1 (brokers (h (.call t c) s).2 t.fqdn)
  apart : ∀ t c s fqdn, c.brings = true → fqdn ≠ t.fqdn →
    brokers (h (.call t c) s).2 fqdn = brokers s fqdn
  read : ∀ r : Request, r.isRead = true → ∀ s, brokers (h r s).2 = brokers s

end BrokerFleet
