import BrokerFleet.Failure
import BrokerFleet.Json.Value
import BrokerFleet.Text.Blank
import BrokerFleet.Text.Cut
import BrokerFleet.Text.Span

/-! # Calls to a broker

The operations that a broker offers, how a call fails, and which failures only say that the wanted
state is there already. -/

namespace BrokerFleet

/-- A call to the management endpoint of a replica. -/
inductive Call where
  | createAddress (name routing : String)
  | deleteAddress (name : String)
  | createQueue (config : String) (ignoreIfExists : Bool)
  | updateQueue (config : String)
  | deleteQueue (name : String)
  | listBindings (address : String)
  deriving DecidableEq, Repr

/-- A failure that a broker reports with a code of its own. -/
inductive BrokerCode where
  | addressAlreadyExists
  | queueAlreadyExists
  | addressDoesNotExist
  | queueDoesNotExist
  deriving DecidableEq, Repr

namespace BrokerCode

def all : List BrokerCode :=
  [addressAlreadyExists, queueAlreadyExists, addressDoesNotExist, queueDoesNotExist]

/-- The code as it stands in a message. -/
def code : BrokerCode → String
  | addressAlreadyExists => "AMQ229204"
  | queueAlreadyExists => "AMQ229019"
  | addressDoesNotExist => "AMQ229203"
  | queueDoesNotExist => "AMQ229017"

def render : BrokerCode → String
  | addressAlreadyExists => "AddressAlreadyExists"
  | queueAlreadyExists => "QueueAlreadyExists"
  | addressDoesNotExist => "AddressDoesNotExist"
  | queueDoesNotExist => "QueueDoesNotExist"

/-- The first of the codes that occurs anywhere in a message. -/
def ofMessage? (message : String) : Option BrokerCode :=
  all.find? fun c => Text.occursIn c.code.toList message.toList

end BrokerCode

/-- How a call fails: before the broker answered, for want of an answer, or by its refusal. -/
inductive CallFailureKind where
  | transport
  | timeout
  | remote
  deriving DecidableEq, Repr

def CallFailureKind.render : CallFailureKind → String
  | transport => "Transport"
  | timeout => "Timeout"
  | remote => "Remote"

structure CallFailure where
  operation : String
  kind : CallFailureKind
  text : String
  code : Option BrokerCode := none
  deriving DecidableEq, Repr

namespace CallFailure

/-- The broker refused. -/
def remote (operation text : String) : CallFailure :=
  ⟨operation, .remote, text, BrokerCode.ofMessage? text⟩

/-- The connection or the protocol failed. -/
def transport (operation text : String) : CallFailure := ⟨operation, .transport, text, none⟩

/-- No answer came in time. -/
def timeout (operation : String) (after : Text.Span) : CallFailure :=
  ⟨operation, .timeout, "no response after " ++ after.render, none⟩

def message (f : CallFailure) : String :=
  f.operation ++ " failed (" ++ f.kind.render ++ "): " ++ f.text

/-- Whether the failure is expected to pass without a change of the declaration. -/
def isTransient (f : CallFailure) : Bool := f.kind != .remote

def hasCode (f : CallFailure) (c : BrokerCode) : Bool := f.code == some c

def toFailure (f : CallFailure) : Failure :=
  match f.kind with
  | .timeout => .timeout f.message
  | .transport => .noManagementClient f.message
  | .remote => .unknownManagement f.message

end CallFailure

/-- What a call comes to: the value that the broker returned, or a failure. -/
abbrev CallResult := Except CallFailure Json

/-- Whether an answer to a listing names a binding. -/
def hasBindings : Json → Bool
  | .null => false
  | .str s =>
    let text := Text.trim s
    !(text == "" || text == "[]")
  | .arr items => !items.isEmpty
  | _ => true

/-- An answer names no binding if there is none, if it is an empty list, and if it is a text that is
blank or writes an empty list. -/
theorem hasBindings_eq_false_iff {answer : Json} : hasBindings answer = false ↔
    answer = .null ∨ answer = .arr [] ∨
      ∃ text, answer = .str text ∧ (Text.trim text = "" ∨ Text.trim text = "[]") := by
  cases answer with
  | str text => simp [hasBindings, Decidable.or_iff_not_imp_left]
  | _ => simp [hasBindings]

end BrokerFleet
