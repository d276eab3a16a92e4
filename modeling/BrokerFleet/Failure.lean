import BrokerFleet.Dict
import BrokerFleet.Text.Quoted

/-! # Failures

A failure says what went wrong and carries a directive: whether to try again after the resync
period. Callers decide by the directive alone and never by the wording. -/

namespace BrokerFleet

/-- The status with which the API server refuses a request. -/
structure ApiStatus where
  status : String := "Failure"
  message : String
  reason : String
  code : Nat
  deriving DecidableEq, Repr

/-- How a request to the API server fails: with a status, with an answer that cannot be read, or
before it is made, for want of a name or of a target. -/
inductive ApiFailure where
  | refused (status : ApiStatus)
  | unreadable
  | unnamed
  | untargeted
  deriving DecidableEq, Repr

namespace ApiFailure

def message : ApiFailure → String
  | refused s =>
    "ApiError: " ++ s.message ++ ": " ++ s.reason ++ " (ErrorResponse \x7b status: " ++
      Text.quote s.status ++ ", message: " ++ Text.quote s.message ++ ", reason: " ++
      Text.quote s.reason ++ ", code: " ++ toString s.code ++ " \x7d)"
  | unreadable => "the answer of the API server cannot be read"
  | unnamed => "the request needs a name"
  | untargeted => "the request has no target"

def hasCode (code : Nat) : ApiFailure → Bool
  | refused s => s.code == code
  | unreadable | unnamed | untargeted => false

def hasReason (reason : String) : ApiFailure → Bool
  | refused s => s.reason == reason
  | unreadable | unnamed | untargeted => false

end ApiFailure

/-- The failure of a step on several targets, with the reasons at each. -/
structure BatchFailure where
  cause : String
  detail : Dict String String := Dict.empty
  transient : Bool := false
  deriving DecidableEq

namespace BatchFailure

/-- Adds a reason at a target, after a comma where the target has one already. -/
def add (f : BatchFailure) (target reason : String) : BatchFailure :=
  let text := match f.detail.get? target with
    | none => reason
    | some earlier => earlier ++ ", " ++ reason
  { f with detail := f.detail.insert target text }

/-- Adds a reason that is expected to pass without a change of the declaration. -/
def addTransient (f : BatchFailure) (target reason : String) : BatchFailure :=
  { f.add target reason with transient := true }

def isEmpty (f : BatchFailure) : Bool := f.detail.isEmpty

/-- Whether to try again: only if some reason is expected to pass. -/
def requeue (f : BatchFailure) : Bool := f.transient

/-- The wording: the cause, then every target in order with its reasons. -/
def message (f : BatchFailure) : String :=
  String.join (("Apply failed: " ++ f.cause) :: f.detail.entries.map fun e =>
    "; " ++ e.1 ++ ": " ++ e.2)

end BatchFailure

inductive Failure where
  | api (failure : ApiFailure)
  | unknownManagement (text : String)
  | noManagementClient (text : String)
  | outOfSync (expected current : String)
  | missingStatusKey (key : String)
  | batch (failure : BatchFailure)
  | timeout (text : String)
  | invalidConfig (text : String)
  | serialization (text : String)
  | finalizer (text : String)
  deriving DecidableEq

namespace Failure

/-- The short name of the kind of failure. -/
def kind : Failure → String
  | api _ => "kube"
  | unknownManagement _ => "unknown_management"
  | noManagementClient _ => "no_management_client"
  | outOfSync _ _ | missingStatusKey _ => "status_out_of_sync"
  | batch _ => "apply"
  | timeout _ => "timeout"
  | invalidConfig _ => "invalid_config"
  | serialization _ => "serialization"
  | finalizer _ => "finalizer"

def message : Failure → String
  | api e => "Kubernetes API error: " ++ e.message
  | unknownManagement text => "Unknown management error: " ++ text
  | noManagementClient text => "No management client available: " ++ text
  | outOfSync expected current =>
    "Status out of sync: expected " ++ expected ++ ", current " ++ current
  | missingStatusKey key => "Status out of sync: missing key " ++ key
  | batch e => e.message
  | timeout text => "Operation timed out: " ++ text
  | invalidConfig text => "Invalid configuration: " ++ text
  | serialization text => "Serialization error: " ++ text
  | finalizer text => "Finalizer error: " ++ text

/-- Whether to try again after the resync period. -/
def requeue : Failure → Bool
  | api _ | noManagementClient _ | outOfSync _ _ | missingStatusKey _ | timeout _ | finalizer _ =>
    true
  | batch e => e.requeue
  | unknownManagement _ | invalidConfig _ | serialization _ => false

def isConflict : Failure → Bool
  | api e => e.hasCode 409
  | _ => false

end Failure

/-- What a controller does after a pass: wait for a change, or come back after a time. -/
inductive Action where
  | awaitChange
  | requeueAfter (millis : Nat)
  deriving DecidableEq, Repr

/-- What a controller does after a failure: its directive decides. -/
def Failure.policy (f : Failure) (resyncMillis : Nat) : Action :=
  if f.requeue then .requeueAfter resyncMillis else .awaitChange

end BrokerFleet
