import BrokerFleet.Management.Call
import BrokerFleet.Replica.Target

/-! # Scripted brokers

A script lists what the calls to a replica come to, one after the other, by the name of the replica
and of the call. A replica without anything left takes from the lists that are for any replica, and
a call for which nothing is left succeeds with null. -/

namespace BrokerFleet

namespace Call

def name : Call → String
  | createAddress _ _ => "create_address"
  | deleteAddress _ => "delete_address"
  | createQueue _ _ => "create_queue"
  | updateQueue _ => "update_queue"
  | deleteQueue _ => "delete_queue"
  | listBindings _ => "list_bindings"

def names : List String :=
  ["create_address", "delete_address", "create_queue", "update_queue", "delete_queue",
    "list_bindings"]

end Call

namespace Simulation

/-- What a call comes to. -/
inductive Outcome where
  | value (v : Json)
  | remote (text : String)
  | transport (text : String)
  | timeout (after : Text.Span)

/-- The result of a call of a given name. -/
def Outcome.toResult (name : String) : Outcome → CallResult
  | value v => .ok v
  | remote text => .error (.remote name text)
  | transport text => .error (.transport name text)
  | timeout after => .error (.timeout name after)

/-- Outcomes by the name of a replica and of a call. -/
abbrev BrokerScript := Dict String (Dict String (List Outcome))

namespace BrokerScript

def anyReplica : String := "*"

/-- The outcomes that are left for a replica and a call. -/
def left (s : BrokerScript) (replica name : String) : List Outcome :=
  ((s.get? replica).bind (·.get? name)).getD []

def setLeft (s : BrokerScript) (replica name : String) (outcomes : List Outcome) : BrokerScript :=
  s.insert replica (((s.get? replica).getD Dict.empty).insert name outcomes)

/-- The next outcome for a replica and a call, and the script without it. -/
def next (s : BrokerScript) (replica name : String) : Outcome × BrokerScript :=
  match s.left replica name with
  | outcome :: rest => (outcome, s.setLeft replica name rest)
  | [] =>
    match s.left anyReplica name with
    | outcome :: rest => (outcome, s.setLeft anyReplica name rest)
    | [] => (.value .null, s)

end BrokerScript

end Simulation

end BrokerFleet
