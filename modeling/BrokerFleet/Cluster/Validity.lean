import BrokerFleet.Surroundings
import BrokerFleet.Config
import BrokerFleet.Cluster.Names
import BrokerFleet.Cluster.Version

/-! # Whether a declared cluster is valid

Five groups of checks run in order: the constraints on the fields, the extra mounts, the disruption
budget, the console secret, and the version with its images. The first that fails decides the
condition `Valid`. -/

namespace BrokerFleet

/-- Why a check fails. -/
structure Finding where
  status : Holds := .no
  reason : Reason
  message : String
  /-- Whether the check may pass later without a change of the declaration. -/
  retry : Bool := false
  deriving DecidableEq, Repr

structure Validation where
  condition : Condition
  retry : Bool
  deriving DecidableEq

/-- Only a condition that is true lets the cluster be provisioned. -/
def Validation.isValid (v : Validation) : Bool := v.condition.isTrue

namespace Validity

/-- A check that reads objects, and that ends with the first finding. -/
abbrev Check (α : Type) := ExceptT Finding (ExceptT Failure (Program surroundings)) α

def loggingSuffix : String := "-logging-config"

/-- What a logging configuration has to hold. -/
def loggingKey : String := "logging.properties"

def jaasSuffix : String := "-jaas-config"

/-- What a login configuration has to hold. -/
def jaasKey : String := "login.config"

def missing (kind name : String) : Finding where
  reason := .missingResources
  message := kind ++ " " ++ name ++ " not found"
  retry := true

def missingKey (mount key : String) : Finding where
  reason := .invalidExtraMount
  message := "extra mount " ++ mount ++ " must contain " ++ key

/-- How many logging and login configurations are mounted. -/
structure MountCount where
  logging : Nat := 0
  jaas : Nat := 0
  deriving DecidableEq, Repr

def MountCount.add (a b : MountCount) : MountCount := ⟨a.logging + b.logging, a.jaas + b.jaas⟩

def MountCount.sum (cs : List MountCount) : MountCount := cs.foldr add {}

/-! ## The groups of checks -/

/-- The constraints on the fields. A breach of the declaration itself hides those further down. -/
def fields (spec : ClusterSpec) : Option Finding :=
  let violations := spec.violations
  if violations = [] then none
  else
    let own := (violations.filter (·.path.length = 1)).map Violation.render
    let message := match own.mergeSort with
      | [] => Violation.renderAll violations
      | texts => "; ".intercalate texts
    some { reason := .specInvalid, message }

/-- One mounted config map: it exists, is no login configuration, and as a logging configuration
holds its key. -/
def configMapMount (ns name : String) : Check MountCount := do
  match ← Task.getConfigMap ⟨ns, name⟩ with
  | none => throw (missing "ConfigMap" name)
  | some map =>
    if Text.endsWith name jaasSuffix then
      throw { reason := .invalidExtraMount,
              message := "JAAS config " ++ name ++
                " must be mounted from a Secret, not a ConfigMap" }
    else if Text.endsWith name loggingSuffix then
      if map.hasKey loggingKey then pure { logging := 1 } else throw (missingKey name loggingKey)
    else pure {}

/-- One mounted secret: it exists, as a logging configuration holds its key, and as a login
configuration holds a text of the configured form. -/
def secretMount (config : Config) (ns name : String) : Check MountCount := do
  match ← Task.getSecret ⟨ns, name⟩ with
  | none => throw (missing "Secret" name)
  | some secret =>
    if Text.endsWith name loggingSuffix then
      if secret.hasKey loggingKey then pure { logging := 1 } else throw (missingKey name loggingKey)
    else if Text.endsWith name jaasSuffix then
      match secret.value? jaasKey, config.jaasSyntax with
      | none, _ => throw (missingKey name jaasKey)
      | some _, none => pure { jaas := 1 }
      | some content, some form =>
        if form.accepts content then pure { jaas := 1 }
        else throw { reason := .invalidExtraMount,
                     message := jaasKey ++ " in Secret " ++ name ++
                       " does not match the configured syntax " ++ form.text }
    else pure {}

/-- More than one configuration of a purpose. -/
def duplicate (purpose : String) : Finding where
  reason := .duplicateExtraMount
  message := "only one " ++ purpose ++ " config may be mounted"

/-- The extra mounts: each by itself, and at most one logging and one login configuration. -/
def extraMounts (config : Config) (ns : String) (mounts : ExtraMounts) : Check Unit := do
  let maps ← mounts.configMaps.mapM (configMapMount ns)
  let secrets ← mounts.secrets.mapM (secretMount config ns)
  let count := MountCount.sum (maps ++ secrets)
  if count.logging > 1 then throw (duplicate "logging")
  else if count.jaas > 1 then throw (duplicate "JAAS")
  else pure ()

/-- A disruption budget leaves its selector to the operator. -/
def disruptionBudget (spec : ClusterSpec) : Option Finding :=
  if (spec.deploymentPlan.podDisruptionBudget.bind (·.selector)).isSome then
    some { reason := .budgetSelectorSet,
           message := "podDisruptionBudget.selector must not be set; the operator derives it" }
  else none

/-- The keys that a console secret has to hold, each with an alternative. -/
def consoleKeys : List (List String) :=
  [["keyStorePassword"], ["trustStorePassword"], ["keyStorePath", "broker.ks"],
    ["trustStorePath", "client.ts"]]

/-- The keys of a console secret that are missing, with their alternatives. -/
def absentConsoleKeys (secret : Secret) : List String :=
  (consoleKeys.filter fun keys => !keys.any secret.hasKey).filterMap List.head?

/-- The secret of an encrypted console. -/
def console (c : Cluster) : Check Unit := do
  if c.spec.console.sslEnabled then
    let name := (ClusterNames.ofCluster c).consoleSecret
    match ← Task.getSecret ⟨c.ns, name⟩ with
    | none =>
      throw { reason := .invalidConsoleSecret,
              message := "console secret " ++ name ++ " not found", retry := true }
    | some secret =>
      match absentConsoleKeys secret with
      | [] => pure ()
      | absent =>
        throw { reason := .invalidConsoleSecret,
                message := "console secret " ++ name ++ " is missing " ++ ", ".intercalate absent }
  else pure ()

/-- The version and the images: a declared version is supported and pins no image, or both images
are pinned, or neither. -/
def version (spec : ClusterSpec) : Option Finding :=
  let image := Version.isPinned spec.deploymentPlan.image
  let init := Version.isPinned spec.deploymentPlan.initImage
  match spec.version.filter (· ≠ "") with
  | some declared =>
    if (Version.resolve? declared).isNone then
      some { reason := .versionInvalid,
             message := "version " ++ declared ++ " is not supported, supported versions are " ++
               ", ".intercalate Version.supported }
    else if image || init then
      some { status := .unknown, reason := .imageVersionConflict,
             message := "version " ++ declared ++
               " is declared together with a pinned image; remove one of them" }
    else none
  | none =>
    if image != init then
      some { status := .unknown, reason := .imageDependentPair,
             message := "image and initImage must be pinned together" }
    else none

def report (finding : Option Finding) : Check Unit :=
  match finding with
  | some f => throw f
  | none => pure ()

/-- The five groups in order. -/
def checks (config : Config) (c : Cluster) : Check Unit := do
  report (fields c.spec)
  extraMounts config c.ns c.spec.deploymentPlan.extraMounts
  report (disruptionBudget c.spec)
  console c
  report (version c.spec)

/-- The outcome of the checks, as a condition of the declaration's generation. -/
def outcome (now : String) (generation : Int64) : Except Finding Unit → Validation
  | .ok _ =>
    ⟨{ Condition.stated now Condition.valid .yes .validationSucceeded "" with
        observedGeneration := generation }, false⟩
  | .error f =>
    ⟨{ Condition.stated now Condition.valid f.status f.reason f.message with
        observedGeneration := generation }, f.retry⟩

def validate (config : Config) (c : Cluster) : Task Validation := do
  let result ← (checks config c).run
  let now ← Task.lift readClock
  pure (outcome now c.generation result)

end Validity

end BrokerFleet
