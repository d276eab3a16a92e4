import BrokerFleet.Failure
import BrokerFleet.Http.Status
import BrokerFleet.Json.Decoder
import BrokerFleet.Json.Sound
import BrokerFleet.ApiServer.Request

/-! # Answers of the API server

The answer to a failed request carries a status; where it carries something else, the status of HTTP
and the body as a quotation stand for it. Every other answer carries an object. -/

namespace BrokerFleet

open Json

namespace ApiStatus

def ofJson? (v : Json) : Option ApiStatus := do
  let v ← record ["status", "message", "reason", "code"] 4 v
  some {
    status := ← required asStr "status" v
    message := ← defaulted asStr "" "message" v
    reason := ← defaulted asStr "" "reason" v
    code := ← required asNat16 "code" v }

def ofAnswer (a : ApiAnswer) : ApiStatus :=
  match (parse? a.body).bind ofJson? with
  | some s => s
  | none => ⟨Http.statusText a.status, Text.quote a.body, "Failed to parse error data", a.status⟩

def toJson (s : ApiStatus) : Json :=
  obj [("apiVersion", str "v1"), ("kind", str "Status"), ("metadata", obj []),
    ("status", str s.status), ("message", str s.message), ("reason", str s.reason),
    ("code", int s.code)]

end ApiStatus

namespace ApiAnswer

/-- What an answer carries. -/
def decode {α : Type} (d : Decoder α) (a : ApiAnswer) : Except ApiFailure α :=
  if Http.isError a.status then .error (.refused (.ofAnswer a))
  else match (parse? a.body).bind d with
    | some v => .ok v
    | none => .error .unreadable

def listMetadata : Decoder Unit := fun v => do
  let _ ← asObj v
  let _ ← optional asStr "continue" v
  let _ ← optional asInt64 "remainingItemCount" v
  let _ ← optional asStr "resourceVersion" v
  let _ ← optional asStr "selfLink" v

/-- The items of a list; null is no item. What else a list holds does not matter, if it is sound. -/
def items {α : Type} (d : Decoder α) : Decoder (List α) := fun v => do
  let fields ← asObj v
  let others := fields.filter fun e => e.1 ≠ "metadata" ∧ e.1 ≠ "items"
  if ! fieldsSound others (depthLimit - 1) then none
  let v ← unrepeated ["metadata", "items"] v
  let _ ← defaulted listMetadata () "metadata" v
  let items ← required (nullable (listOf d)) "items" v
  some (items.getD [])

def statusCause : Decoder Unit := fun v => do
  let v ← record ["reason", "message", "field"] 0 v
  let _ ← defaulted asStr "" "reason" v
  let _ ← defaulted asStr "" "message" v
  let _ ← defaulted asStr "" "field" v

def statusDetails : Decoder Unit := fun v => do
  let v ← record ["name", "group", "kind", "uid", "causes", "retryAfterSeconds"] 0 v
  let _ ← defaulted asStr "" "name" v
  let _ ← defaulted asStr "" "group" v
  let _ ← defaulted asStr "" "kind" v
  let _ ← defaulted asStr "" "uid" v
  let _ ← defaulted (listOf statusCause) [] "causes" v
  let _ ← defaulted asNat32 0 "retryAfterSeconds" v

/-- Checks the status that answers a deletion, in place of the deleted object. -/
def deletionStatus : Decoder Unit := fun v => do
  let v ← record ["status", "code", "message", "reason", "details"] 0 v
  let outcome ← optional asWord "status" v
  if outcome.any fun s => s ≠ "Success" ∧ s ≠ "Failure" then none
  let _ ← defaulted asNat16 0 "code" v
  let _ ← defaulted asStr "" "message" v
  let _ ← defaulted asStr "" "reason" v
  let _ ← optional statusDetails "details" v

/-- What answers a deletion, in a sound document: a status, or the deleted object. -/
def deletion {α : Type} (d : Decoder α) : Decoder Unit := fun v =>
  if ! v.isSound depthLimit then none
  else match v.get? "kind" with
    | some (.str "Status") => deletionStatus v
    | _ => (d v).map fun _ => ()

end ApiAnswer

end BrokerFleet
