import BrokerFleet.Address.Lifecycle

/-! # The finalizer of an address

A finalizer keeps a deleted address declaration in existence until it has been cleaned up. It is
added before the declaration is applied for the first time, and removed after the clean-up. Each
change tests first that the finalizers are still those that were read. -/

namespace BrokerFleet

/-- How a pass under a finalizer fails. -/
inductive FinalizerFailure where
  | apply (failure : Failure)
  | cleanup (failure : Failure)
  | adding (failure : ApiFailure)
  | removing (failure : ApiFailure)
  | unnamed
  | invalid

namespace FinalizerFailure

/-- The failure as one of the operator: a failed pass keeps its own failure. -/
def toFailure : FinalizerFailure → Failure
  | apply failure | cleanup failure => failure
  | adding failure => .finalizer ("failed to add finalizer: " ++ failure.message)
  | removing failure => .finalizer ("failed to remove finalizer: " ++ failure.message)
  | unnamed => .finalizer "object has no name"
  | invalid => .finalizer "invalid finalizer"

end FinalizerFailure

namespace FinalizerPatch

def root : String := "/metadata/finalizers"

/-- The change that adds a finalizer behind those that are there. -/
def add (finalizer : String) : List String → FinalizerPatch
  | [] => ⟨root, .null, root, some (.strs [finalizer])⟩
  | present => ⟨root, .strs present, root ++ "/-", some (.str finalizer)⟩

/-- The change that removes the finalizer at an index. -/
def remove (finalizer : String) (index : Nat) : FinalizerPatch :=
  let path := root ++ "/" ++ toString index
  ⟨path, .str finalizer, path, none⟩

/-- The steps of the change as a JSON patch. -/
def steps (p : FinalizerPatch) : List Json :=
  [.obj [("op", .str "test"), ("path", .str p.testPath), ("value", p.testValue)],
    match p.value with
    | some v => .obj [("op", .str "add"), ("path", .str p.path), ("value", v)]
    | none => .obj [("op", .str "remove"), ("path", .str p.path)]]

end FinalizerPatch

namespace AddressPass

def finalizer : String := "broker.operator.dev/address-finalizer"

/-- A part of a pass that may fail for reasons of the finalizer. -/
abbrev Finalizing (α : Type) :=
  ExceptT FinalizerFailure (StateT AddressMemory (Program surroundings)) α

/-- A step of the life of an address, with the reason that its failure stands for. -/
def step {α : Type} (reason : Failure → FinalizerFailure) (k : Keeping α) : Finalizing α :=
  ExceptT.mk ((fun r => r.mapError reason) <$> k.run)

/-- Changes the finalizers, with the reason that a failure stands for. -/
def patch (a : Address) (reason : ApiFailure → FinalizerFailure) (p : FinalizerPatch) :
    Finalizing Unit :=
  match a.metadata.name with
  | none => throw .unnamed
  | some name =>
    ExceptT.mk ((fun r => r.mapError reason) <$>
      StateT.lift (patchFinalizers ⟨a.metadata.ns.getD "default", name⟩ p))

/-- What a pass does: with the finalizer in place the declaration is applied or cleaned up, without
it the finalizer is added or nothing is left to do. -/
def course (config : Config) (a : Address) : Finalizing Action := do
  let present := a.metadata.finalizers.getD []
  match present.findIdx? (· == finalizer), a.metadata.deletionTimestamp.isSome with
  | some _, false => step .apply (AddressLifecycle.apply config a)
  | some index, true =>
    if a.metadata.name.isNone then throw .unnamed
    let action ← step .cleanup (AddressLifecycle.cleanup config a)
    patch a .removing (.remove finalizer index)
    pure action
  | none, false =>
    patch a .adding (.add finalizer present)
    pure .awaitChange
  | none, true => pure .awaitChange

def run (config : Config) (a : Address) : Keeping Action :=
  ExceptT.mk ((fun r => r.mapError FinalizerFailure.toFailure) <$> (course config a).run)

end AddressPass

end BrokerFleet
