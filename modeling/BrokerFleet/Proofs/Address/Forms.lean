import BrokerFleet.Address.Sync
import BrokerFleet.Proofs.Management.Broker
import BrokerFleet.Proofs.Management.Queue

/-! # The forms of a broker

Bringing an address to a broker leaves it in one of three forms: as it was, with the address, or
with all that is declared. Each form is reached from the ones before it and left by none of them,
and no form lacks or changes anything that is not declared. -/

namespace BrokerFleet.AddressSync

/-! ## Three forms -/

section Forms

variable (reading : ConfigReading) {spec : AddressSpec} {p : QueuePayload} {b b₀ b' : Broker}

def withAddress (spec : AddressSpec) (b : Broker) : Broker :=
  { b with addresses := insert spec.addressName b.addresses }

/-- The queue that a payload makes of the one that is there, if one is. -/
def queueEntry (p : QueuePayload) : Option BrokerQueue → BrokerQueue
  | none => ⟨reading.address p.config, p.config⟩
  | some q => if p.ignoreIfExists then q else { q with config := p.config }

def withQueue (p : QueuePayload) (b : Broker) : Broker :=
  let name := reading.queue p.config
  { b with queues := b.queues.insert name (queueEntry reading p (b.queues.get? name)) }

/-- A broker that was given all that is declared. -/
def withDeclared (spec : AddressSpec) (b : Broker) : Broker :=
  (QueuePayload.ofSpec? spec).elim (withAddress spec b) fun p =>
    withQueue reading p (withAddress spec b)

theorem withAddress_withAddress (spec : AddressSpec) (b : Broker) :
    withAddress spec (withAddress spec b) = withAddress spec b := by
  simp [withAddress]

theorem queueEntry_queueEntry (p : QueuePayload) (q : Option BrokerQueue) :
    queueEntry reading p (some (queueEntry reading p q)) = queueEntry reading p q := by
  obtain _ | q := q <;> cases hignore : p.ignoreIfExists <;> simp [queueEntry, hignore]

theorem withQueue_withQueue (p : QueuePayload) (b : Broker) :
    withQueue reading p (withQueue reading p b) = withQueue reading p b := by
  simp [withQueue, queueEntry_queueEntry, Dict.insert_of_get?]

theorem withDeclared_withAddress (spec : AddressSpec) (b : Broker) :
    withDeclared reading spec (withAddress spec b) = withDeclared reading spec b := by
  simp [withDeclared, withAddress_withAddress]

theorem withAddress_withDeclared (spec : AddressSpec) (b : Broker) :
    withAddress spec (withDeclared reading spec b) = withDeclared reading spec b := by
  unfold withDeclared
  cases QueuePayload.ofSpec? spec with
  | none => exact withAddress_withAddress spec b
  | some p =>
    -- an address and a queue may be given in either order
    change withQueue reading p (withAddress spec (withAddress spec b)) = _
    rw [withAddress_withAddress]
    rfl

theorem withDeclared_withDeclared (spec : AddressSpec) (b : Broker) :
    withDeclared reading spec (withDeclared reading spec b) = withDeclared reading spec b := by
  have haddress := withAddress_withDeclared reading spec b
  unfold withDeclared at haddress ⊢
  cases hpayload : QueuePayload.ofSpec? spec with
  | none => exact withAddress_withAddress spec b
  | some p =>
    simp only [hpayload, Option.elim_some] at haddress ⊢
    rw [haddress, withQueue_withQueue]

/-- How far a broker was brought: not at all, to the address, or to all that is declared. -/
inductive Advance (spec : AddressSpec) (b : Broker) : Broker → Prop where
  | none : Advance spec b b
  | address : Advance spec b (withAddress spec b)
  | declared : Advance spec b (withDeclared reading spec b)

variable {reading}

theorem Advance.trans (h : Advance reading spec b₀ b) (h' : Advance reading spec b b') :
    Advance reading spec b₀ b' := by
  cases h with
  | none => exact h'
  | address =>
    cases h' with
    | none => exact .address
    | address =>
      rw [withAddress_withAddress]
      exact .address
    | declared =>
      rw [withDeclared_withAddress]
      exact .declared
  | declared =>
    cases h' with
    | none => exact .declared
    | address =>
      rw [withAddress_withDeclared]
      exact .declared
    | declared =>
      rw [withDeclared_withDeclared]
      exact .declared

/-- What a broker is brought to in the end does not depend on how far it was brought before. -/
theorem Advance.withDeclared_eq (h : Advance reading spec b₀ b) :
    withDeclared reading spec b = withDeclared reading spec b₀ := by
  cases h with
  | none => rfl
  | address => exact withDeclared_withAddress reading spec b₀
  | declared => exact withDeclared_withDeclared reading spec b₀

/-- A broker that has all that is declared is not brought any further. -/
theorem Advance.eq_of_declared (h : Advance reading spec b b')
    (hb : withDeclared reading spec b = b) : b' = b := by
  cases h with
  | none => rfl
  | address => rw [← hb, withAddress_withDeclared]
  | declared => exact hb

end Forms

/-! ## What the forms keep -/

section Kept

variable {reading : ConfigReading} {spec : AddressSpec} {b₀ b : Broker}

/-- A broker reads in a text that tells of a declared queue the queue and the address that it was
made for. -/
def ReadsDeclared (reading : ConfigReading) (spec : AddressSpec) : Prop :=
  ∀ (queue : String) (p : QueuePayload), QueuePayload.Names spec queue → p.Describes spec queue →
    reading.queue p.config = queue ∧ reading.address p.config = spec.addressName

/-- Nothing that a broker kept is gone, and nothing but the declared address and the declared queue
has changed or come. -/
structure Extends (spec : AddressSpec) (b₀ b : Broker) : Prop where
  address_kept : b₀.addresses ⊆ b.addresses
  address_new : ∀ a ∈ b.addresses, a ∈ b₀.addresses ∨ a = spec.addressName
  queue_kept : ∀ name q₀, b₀.queues.get? name = some q₀ →
    ∃ q, b.queues.get? name = some q ∧ q.address = q₀.address
  queue_other : ∀ name, ¬ QueuePayload.Names spec name → b.queues.get? name = b₀.queues.get? name

/-- A broker has the declared address and the declared queue. The queue is configured by a payload
that tells of it, unless an earlier queue is to be left alone and there was one; a new queue is at
the address. -/
structure Provides (spec : AddressSpec) (b₀ b : Broker) : Prop where
  address : spec.addressName ∈ b.addresses
  queue : ∀ name, QueuePayload.Names spec name →
    ∃ p : QueuePayload, p.Describes spec name ∧ ∃ q, b.queues.get? name = some q ∧
      (q.config = p.config ∨ p.ignoreIfExists = true ∧ b₀.queues.get? name = some q) ∧
      (b₀.queues.get? name = none → q.address = spec.addressName)

theorem Extends.refl (spec : AddressSpec) (b : Broker) : Extends spec b b where
  address_kept := Finset.Subset.refl _
  address_new _ ha := .inl ha
  queue_kept _ q hq := ⟨q, hq, rfl⟩
  queue_other _ _ := rfl

theorem extends_withAddress (spec : AddressSpec) (b : Broker) :
    Extends spec b (withAddress spec b) where
  address_kept := Finset.subset_insert _ _
  address_new _ ha := (Finset.mem_insert.mp ha).symm
  queue_kept _ q hq := ⟨q, hq, rfl⟩
  queue_other _ _ := rfl

theorem address_queueEntry (p : QueuePayload) (q : BrokerQueue) :
    (queueEntry reading p (some q)).address = q.address := by
  cases hignore : p.ignoreIfExists <;> simp [queueEntry, hignore]

theorem extends_withDeclared (hreads : ReadsDeclared reading spec) (b : Broker) :
    Extends spec b (withDeclared reading spec b) := by
  unfold withDeclared
  cases hp : QueuePayload.ofSpec? spec with
  | none => exact extends_withAddress spec b
  | some p =>
    obtain ⟨queue, hnamed, hdescribes⟩ := QueuePayload.names_of_ofSpec? hp
    obtain ⟨hname, -⟩ := hreads queue p hnamed hdescribes
    have haddress := extends_withAddress spec b
    refine ⟨haddress.address_kept, haddress.address_new, fun name q₀ hq₀ => ?_, fun name hne => ?_⟩
    · by_cases hdeclared : name = reading.queue p.config
      · subst hdeclared
        refine ⟨_, Dict.get?_insert_self .., ?_⟩
        change (queueEntry reading p (b.queues.get? (reading.queue p.config))).address = _
        rw [hq₀, address_queueEntry]
      · exact ⟨q₀, (Dict.get?_insert_of_ne _ _ hdeclared).trans hq₀, rfl⟩
    · refine Dict.get?_insert_of_ne _ _ fun hdeclared => hne ?_
      rwa [hdeclared, hname]

theorem Advance.extends (hreads : ReadsDeclared reading spec) (h : Advance reading spec b₀ b) :
    Extends spec b₀ b := by
  cases h with
  | none => exact .refl spec b₀
  | address => exact extends_withAddress spec b₀
  | declared => exact extends_withDeclared hreads b₀

theorem provides_withDeclared (hreads : ReadsDeclared reading spec) (b₀ : Broker) :
    Provides spec b₀ (withDeclared reading spec b₀) where
  address := by
    rw [← withAddress_withDeclared]
    exact Finset.mem_insert_self _ _
  queue name hnamed := by
    obtain ⟨p, hp, hdescribes⟩ := QueuePayload.ofSpec?_of_names hnamed
    obtain ⟨hname, haddress⟩ := hreads name p hnamed hdescribes
    subst hname
    refine ⟨p, hdescribes, queueEntry reading p (b₀.queues.get? (reading.queue p.config)), ?_, ?_,
      ?_⟩
    · rw [withDeclared, hp]
      exact Dict.get?_insert_self ..
    · cases hq : b₀.queues.get? (reading.queue p.config) with
      | none => exact .inl rfl
      | some q => cases hignore : p.ignoreIfExists <;> simp [queueEntry, hignore]
    · intro hnone
      rw [hnone]
      exact haddress

end Kept

end BrokerFleet.AddressSync
