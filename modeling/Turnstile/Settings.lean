import Turnstile.Text.Decimal
import Turnstile.Text.Quoted
import Turnstile.Retry

/-!
# Settings

All settings come from variables of the environment. A variable that is missing or empty leaves
its default; credentials have none. Variables are read in a fixed order, so of several faults the
first in that order is reported, and only then are the limits of the loops checked
(`Limits.check`).
-/

set_option autoImplicit false

namespace Turnstile.Settings

/-- Access to the orchestration API. -/
structure Api where
  address : String
  token : String
  ignoreCertificateWarnings : Bool
deriving DecidableEq, Repr

/-- Access to the message broker. The pause between connection attempts is in seconds. -/
structure Broker where
  address : String
  username : String
  password : String
  usesSessionFilters : Bool
  connectAttempts : Nat
  connectPause : Nat
deriving DecidableEq

/-- A pause of whole seconds as a diagnostic shows it: in seconds, and in nanoseconds if it is
zero. -/
def describePause (seconds : Nat) : String :=
  if seconds = 0 then "0ns" else toString seconds ++ "s"

/-- The settings of the broker as a diagnostic shows them: the password is never part of it. -/
def Broker.describe (settings : Broker) : String :=
  "AmqpConfig \x7b address: " ++ Text.quote settings.address ++
    ", username: " ++ Text.quote settings.username ++
    ", password: \"<redacted>\", is_azure_service_bus: " ++ toString settings.usesSessionFilters ++
    ", connect_attempts: " ++ toString settings.connectAttempts ++
    ", connect_backoff: " ++ describePause settings.connectPause ++ " \x7d"

/-- How dials of the broker are retried. -/
def Broker.retryPolicy (settings : Broker) : Retry.Policy :=
  ⟨settings.connectAttempts, settings.connectPause * 1000⟩

/-- Access to the substrate. Without an address the service account of the pod is used. -/
structure Substrate where
  address : Option String
  token : Option String
deriving DecidableEq, Repr

/-- Ceilings and intervals of the scheduling loops; times in milliseconds. -/
structure Limits where
  maxWorkers : Nat
  maxJobs : Nat
  /-- How often an admission is offered. -/
  capacityInterval : Nat
  /-- How often projects are listed. -/
  projectSyncInterval : Nat
  /-- How long a finished pod is kept. -/
  podDeletionDelay : Nat
  /-- How long closing a reader may take. -/
  readerCloseTimeout : Nat
  /-- How long a stopping scheduler waits for its tasks. -/
  shutdownGrace : Nat
  /-- How long a synchronizer rests before it lists again. -/
  watchRestartPause : Nat
deriving DecidableEq, Repr

/-- The limits that hold where nothing else is set. -/
def Limits.standard : Limits where
  maxWorkers := 2
  maxJobs := 2
  capacityInterval := 5000
  projectSyncInterval := 30000
  podDeletionDelay := 60000
  readerCloseTimeout := 5000
  shutdownGrace := 1000
  watchRestartPause := 1000

/-- Everything that can be set. -/
structure All where
  logLevel : String
  api : Api
  broker : Broker
  substrate : Substrate
  limits : Limits
deriving DecidableEq

/-! ## Faults -/

/-- The quantities that must not be zero. -/
inductive Quantity where
  | maxWorkers
  | maxJobs
  | capacityInterval
  | projectSyncInterval
  | readerCloseTimeout
  | shutdownGrace
deriving DecidableEq, Repr

/-- Why a value cannot be read. -/
inductive ValueFault where
  | noBoolean
  | number (fault : Decimal.Fault)
deriving DecidableEq, Repr

/-- The wording of the fault. -/
def ValueFault.message : ValueFault → String
  | .noBoolean => "provided string was not `true` or `false`"
  | .number fault => fault.message

/-- Why there are no settings. -/
inductive Fault where
  | missing (name : String)
  | invalid (name : String) (raw : String) (fault : ValueFault)
  | zero (quantity : Quantity)
deriving DecidableEq, Repr

/-- The wording of the fault. -/
def Fault.message : Fault → String
  | .missing name => s!"{name} must be set"
  | .invalid name raw fault => s!"invalid value {Text.quote raw} for {name}: {fault.message}"
  | .zero .maxWorkers => "max concurrent workers must be at least 1"
  | .zero .maxJobs => "max concurrent jobs must be at least 1"
  | .zero .capacityInterval => "capacity interval must be greater than zero"
  | .zero .projectSyncInterval => "project sync interval must be greater than zero"
  | .zero .readerCloseTimeout => "reader close timeout must be greater than zero"
  | .zero .shutdownGrace => "shutdown grace must be greater than zero"

/-- The quantities to check, in the order of complaint, with their values. -/
def Limits.quantities (limits : Limits) : List (Quantity × Nat) :=
  [(.maxWorkers, limits.maxWorkers), (.maxJobs, limits.maxJobs),
    (.capacityInterval, limits.capacityInterval),
    (.projectSyncInterval, limits.projectSyncInterval),
    (.readerCloseTimeout, limits.readerCloseTimeout), (.shutdownGrace, limits.shutdownGrace)]

/-- Refuse limits that would stall or spin a loop. -/
def Limits.check (limits : Limits) : Except Fault Unit :=
  match limits.quantities.find? fun entry => entry.2 = 0 with
  | some entry => .error (.zero entry.1)
  | none => .ok ()

/-! ## Reading -/

/-- The variables of an environment. -/
abbrev Environment := String → Option String

namespace Environment

variable (environment : Environment)

/-- The value of a variable, if it is set and not empty. -/
def value? (name : String) : Option String :=
  (environment name).filter (· ≠ "")

/-- A text, or its default. -/
def textOr (name : String) (default : String) : String :=
  (environment.value? name).getD default

/-- A text without default. -/
def required (name : String) : Except Fault String :=
  match environment.value? name with
  | some text => .ok text
  | none => .error (.missing name)

/-- A value read from its text, or its default. -/
def parsedOr {α : Type} (parse : String → Except ValueFault α) (name : String) (default : α) :
    Except Fault α :=
  match environment.value? name with
  | none => .ok default
  | some raw =>
    match parse raw with
    | .ok value => .ok value
    | .error fault => .error (.invalid name raw fault)

end Environment

/-- Exactly `true` or `false`. -/
def parseBoolean (text : String) : Except ValueFault Bool :=
  if text = "true" then .ok true
  else if text = "false" then .ok false
  else .error .noBoolean

/-- A number of at most the given bits. -/
def parseNumber (bits : Nat) (text : String) : Except ValueFault Nat :=
  (Decimal.parse (Nat.pow 2 bits) text).mapError .number

/-- A number of seconds, kept in milliseconds. -/
def parseSeconds (text : String) : Except ValueFault Nat :=
  (parseNumber 64 text).map (· * 1000)

/-- The variables that settings are read from, in that order. -/
def variableNames : List String :=
  ["BRIG_LOG_LEVEL", "BRIG_API_ADDRESS", "BRIG_API_TOKEN", "BRIG_API_IGNORE_CERT_WARNINGS",
    "BRIG_AMQP_ADDRESS", "BRIG_AMQP_USERNAME", "BRIG_AMQP_PASSWORD",
    "BRIG_AMQP_IS_AZURE_SERVICE_BUS", "BRIG_AMQP_CONNECT_ATTEMPTS",
    "BRIG_AMQP_CONNECT_BACKOFF_SECS", "BRIG_KUBE_API_URL", "BRIG_KUBE_TOKEN",
    "BRIG_MAX_CONCURRENT_WORKERS", "BRIG_MAX_CONCURRENT_JOBS", "BRIG_CAPACITY_INTERVAL_SECS",
    "BRIG_PROJECT_SYNC_INTERVAL_SECS", "BRIG_POD_DELETION_DELAY_SECS",
    "BRIG_READER_CLOSE_TIMEOUT_SECS", "BRIG_SHUTDOWN_GRACE_SECS"]

/-- Read all settings from an environment. -/
def load (environment : Environment) : Except Fault All := do
  let logLevel := environment.textOr "BRIG_LOG_LEVEL" "info"
  let api : Api := {
    address := environment.textOr "BRIG_API_ADDRESS" "http://127.0.0.1:8080"
    token := ← environment.required "BRIG_API_TOKEN"
    ignoreCertificateWarnings :=
      ← environment.parsedOr parseBoolean "BRIG_API_IGNORE_CERT_WARNINGS" false }
  let broker : Broker := {
    address := environment.textOr "BRIG_AMQP_ADDRESS" "amqp://127.0.0.1:5672"
    username := ← environment.required "BRIG_AMQP_USERNAME"
    password := ← environment.required "BRIG_AMQP_PASSWORD"
    usesSessionFilters :=
      ← environment.parsedOr parseBoolean "BRIG_AMQP_IS_AZURE_SERVICE_BUS" false
    connectAttempts := ← environment.parsedOr (parseNumber 32) "BRIG_AMQP_CONNECT_ATTEMPTS"
      Retry.Policy.standard.attempts
    connectPause := ← environment.parsedOr (parseNumber 64) "BRIG_AMQP_CONNECT_BACKOFF_SECS"
      (Retry.Policy.standard.pause / 1000) }
  let substrate : Substrate := {
    address := environment.value? "BRIG_KUBE_API_URL"
    token := environment.value? "BRIG_KUBE_TOKEN" }
  let standard := Limits.standard
  let limits : Limits := {
    maxWorkers := ← environment.parsedOr (parseNumber 64) "BRIG_MAX_CONCURRENT_WORKERS"
      standard.maxWorkers
    maxJobs := ← environment.parsedOr (parseNumber 64) "BRIG_MAX_CONCURRENT_JOBS"
      standard.maxJobs
    capacityInterval := ← environment.parsedOr parseSeconds "BRIG_CAPACITY_INTERVAL_SECS"
      standard.capacityInterval
    projectSyncInterval := ← environment.parsedOr parseSeconds "BRIG_PROJECT_SYNC_INTERVAL_SECS"
      standard.projectSyncInterval
    podDeletionDelay := ← environment.parsedOr parseSeconds "BRIG_POD_DELETION_DELAY_SECS"
      standard.podDeletionDelay
    readerCloseTimeout := ← environment.parsedOr parseSeconds "BRIG_READER_CLOSE_TIMEOUT_SECS"
      standard.readerCloseTimeout
    shutdownGrace := ← environment.parsedOr parseSeconds "BRIG_SHUTDOWN_GRACE_SECS"
      standard.shutdownGrace
    watchRestartPause := standard.watchRestartPause }
  limits.check
  return { logLevel, api, broker, substrate, limits }

end Turnstile.Settings
