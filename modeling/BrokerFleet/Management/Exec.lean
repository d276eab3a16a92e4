import BrokerFleet.Config
import BrokerFleet.Http.Status
import BrokerFleet.Json.Decoder
import BrokerFleet.Json.Sound
import BrokerFleet.Management.Call
import BrokerFleet.Replica.Target
import BrokerFleet.Text.Base64
import BrokerFleet.Text.Utf8

/-! # Calls over HTTP

A call is one request to the management endpoint of a replica, which executes an operation of the
broker. What comes back is read in two stages: the status of HTTP first, then a document with a
status of its own. -/

namespace BrokerFleet

open Json

namespace Call

/-- The signature of the operation that a call executes. -/
def operation : Call → String
  | createAddress _ _ => "createAddress(java.lang.String,java.lang.String)"
  | deleteAddress _ => "deleteAddress(java.lang.String)"
  | createQueue _ _ => "createQueue(java.lang.String,boolean)"
  | updateQueue _ => "updateQueue(java.lang.String)"
  | deleteQueue _ => "destroyQueue(java.lang.String)"
  | listBindings _ => "listBindingsForAddress(java.lang.String)"

def arguments : Call → List Json
  | createAddress name routing => [str name, str routing]
  | deleteAddress name => [str name]
  | createQueue config ignoreIfExists => [str config, bool ignoreIfExists]
  | updateQueue config => [str config]
  | deleteQueue name => [str name]
  | listBindings address => [str address]

end Call

structure ExecRequest where
  url : String
  authorization : String
  contentType : String
  body : Json

/-- How an exchange with an endpoint comes out: there is no connection or it breaks, there is no
answer in time, or there is one, whose body may fail to come in time. -/
inductive Exchange where
  | broken
  | silent
  | answered (status : Nat) (body : Option String)
  deriving DecidableEq, Repr

namespace Exec

def path : String := "/console/jolokia"

def brokerName : String := "org.apache.activemq.artemis:broker=\"broker\""

/-- The address of an endpoint at a host and port. -/
def urlAt (protocol : Protocol) (host : String) : String := protocol.scheme ++ "://" ++ host ++ path

def url (config : Config) (target : ReplicaTarget) : String :=
  urlAt target.credentials.protocol (target.fqdn ++ ":" ++ toString config.managementPort)

/-- The header that carries a user and a password. -/
def basicAuthorization (user password : String) : String :=
  "Basic " ++ Text.Base64.render (Text.encodeUtf8 (user ++ ":" ++ password))

def request (url : String) (credentials : Credentials) (c : Call) : ExecRequest where
  url
  authorization := basicAuthorization credentials.user credentials.password
  contentType := "application/json"
  body := obj [("type", str "exec"), ("mbean", str brokerName), ("operation", str c.operation),
    ("arguments", arr c.arguments)]

/-- The failure that a status of HTTP stands for: one of the server is expected to pass. -/
def statusFailure? (operation : String) (status : Nat) : Option CallFailure :=
  let text := "HTTP " ++ Http.statusText status
  if Http.isServerError status then some (.transport operation text)
  else if Http.isClientError status then some (.remote operation text)
  else none

/-- The document of an answer: its status, its value and its error. -/
def document? (v : Json) : Option (Nat × Json × Option String) := do
  let v ← record ["status", "value", "error"] 1 v
  let status ← required asNat16 "status" v
  let value ← defaulted (fun w => if w.isSound (depthLimit - 1) then some w else none)
      null "value" v
  let error ← optional asStr "error" v
  some (status, value, error)

def documentResult (operation : String) : Nat × Json × Option String → CallResult
  | (status, value, error) =>
    if status = 200 then .ok value
    else .error (.remote operation (error.getD ("status " ++ toString status)))

/-- What an exchange says about a call. -/
def result (timeout : Text.Span) (url operation : String) : Exchange → CallResult
  | .broken => .error (.transport operation ("error sending request for url (" ++ url ++ ")"))
  | .silent => .error (.timeout operation timeout)
  | .answered status body =>
    match statusFailure? operation status, body with
    | some failure, _ => .error failure
    | none, none => .error (.timeout operation timeout)
    | none, some text =>
      match (parse? text).bind document? with
      | some d => documentResult operation d
      | none => .error (.transport operation "error decoding response body")

/-- What makes calls of a configuration fail before the first one: a file of certificates that
cannot be read, for the given reason. -/
def certificateFailure? (readError : String → Option String) (config : Config) : Option Failure :=
  config.managementCaCert.bind fun path => (readError path).map fun reason =>
    .invalidConfig ("Failed to read CA certificate " ++ path ++ ": " ++ reason)

end Exec

end BrokerFleet
