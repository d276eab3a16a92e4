import BrokerFleet.Json.Decoder

/-! # Conditions

A condition states whether something holds, why, and since when. A list of conditions is kept with
at most one condition of a type by `Condition.install`, which keeps the time of the last change of
status. -/

namespace BrokerFleet

open Json

inductive Holds where
  | yes
  | no
  | unknown
  deriving DecidableEq, Repr, Inhabited

structure Condition where
  type : String
  status : Holds
  reason : String := ""
  message : String := ""
  observedGeneration : Int64 := 0
  lastTransitionTime : Option String := none
  deriving DecidableEq

def Holds.render : Holds → String
  | yes => "True"
  | no => "False"
  | unknown => "Unknown"

def Holds.ofName? : String → Option Holds
  | "True" => some yes
  | "False" => some no
  | "Unknown" => some unknown
  | _ => none

def Holds.ofJson? (v : Json) : Option Holds := asWord v >>= ofName?

namespace Condition

def toJson (c : Condition) : Json :=
  present [("type", some (str c.type)), ("status", some (str c.status.render)),
    ("reason", some (str c.reason)), ("message", some (str c.message)),
    ("observedGeneration", some (int c.observedGeneration.toInt)),
    ("lastTransitionTime", c.lastTransitionTime.map str)]

def ofJson? (v : Json) : Option Condition := do
  let v ← record ["type", "status", "reason", "message", "observedGeneration",
      "lastTransitionTime"] 2 v
  some {
    type := ← required asStr "type" v
    status := ← required Holds.ofJson? "status" v
    reason := ← defaulted asStr "" "reason" v
    message := ← defaulted asStr "" "message" v
    observedGeneration := ← defaulted asInt64 0 "observedGeneration" v
    lastTransitionTime := ← optional asStr "lastTransitionTime" v }

def isTrue (c : Condition) : Bool := c.status == .yes

/-- Agreement on everything but the generation and the time. -/
def sameAs (c d : Condition) : Bool :=
  c.type == d.type && c.status == d.status && c.reason == d.reason && c.message == d.message

/-- The first condition of a type. -/
def find? (type : String) (cs : List Condition) : Option Condition := cs.find? (·.type == type)

/-- Puts a condition in the place of the first one of its type, or at the end. Where the status
stays, so does the time of its last change. -/
def install (c : Condition) : List Condition → List Condition
  | [] => [c]
  | d :: rest =>
    if d.type = c.type then
      (if d.status = c.status then { c with lastTransitionTime := d.lastTransitionTime } else c) ::
        rest
    else d :: install c rest

/-! ## Types and reasons -/

/-- The type of the condition that the declaration is valid. -/
def valid : String := "Valid"

/-- The type of the condition that every replica runs. -/
def deployed : String := "Deployed"

/-- The type of the condition that all others hold. -/
def ready : String := "Ready"

end Condition

inductive Reason where
  | validationSucceeded
  | specInvalid
  | missingResources
  | invalidExtraMount
  | duplicateExtraMount
  | budgetSelectorSet
  | invalidConsoleSecret
  | versionInvalid
  | imageVersionConflict
  | imageDependentPair
  | allPodsReady
  | podsNotReady
  | provisioningFailed
  | ready
  | notReady
  deriving DecidableEq, Repr

def Reason.render : Reason → String
  | validationSucceeded => "ValidationSucceeded"
  | specInvalid => "SpecInvalid"
  | missingResources => "MissingResources"
  | invalidExtraMount => "InvalidExtraMount"
  | duplicateExtraMount => "DuplicateExtraMount"
  | budgetSelectorSet => "PDBNonNilSelector"
  | invalidConsoleSecret => "InvalidConsoleSecret"
  | versionInvalid => "SpecVersionInvalid"
  | imageVersionConflict => "ImageVersionConflict"
  | imageDependentPair => "ImageDependentPair"
  | allPodsReady => "AllPodsReady"
  | podsNotReady => "PodsNotReady"
  | provisioningFailed => "ProvisioningFailed"
  | ready => "Ready"
  | notReady => "NotReady"

namespace Condition

def stated (now : String) (type : String) (status : Holds) (reason : Reason) (message : String) :
    Condition :=
  { type, status, reason := reason.render, message, lastTransitionTime := some now }

/-- The condition `Ready`: it holds when every other condition does, and else names those that do
not. -/
def aggregate (now : String) (cs : List Condition) : Condition :=
  match (cs.filter fun c => c.type != ready && !c.isTrue).map (·.type) with
  | [] => stated now ready .yes .ready ""
  | missing => stated now ready .no .notReady ("not ready: " ++ ", ".intercalate missing)

/-- Equality of two lists of conditions as sets, generations and times apart. -/
def allSame (cs ds : List Condition) : Bool :=
  cs.length == ds.length && cs.all fun c => (find? c.type ds).elim false c.sameAs

end Condition

end BrokerFleet
