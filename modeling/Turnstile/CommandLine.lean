import Turnstile.Amqp.Client
import Turnstile.Pod.Client

/-!
# The start of the program

The program reads its settings, makes a client for each of the three services and connects to the
message broker. Each step can fail, and the first failure is reported on the error stream: in one
line, or, if it happened in the course of something, with what that was and the cause below it.
-/

set_option autoImplicit false

namespace Turnstile.CommandLine

/-- Why the program does not start. -/
inductive Failure where
  | settings (fault : Settings.Fault)
  | substrate (fault : SubstrateFault)
  | broker (fault : QueueFault)
deriving DecidableEq, Repr

/-- A report of a failure that has a cause. -/
def reportWithCause (activity cause : String) : String :=
  s!"Error: {activity}\n\nCaused by:\n    {cause}\n"

/-- What is written on the error stream. -/
def Failure.report : Failure → String
  | .settings fault => s!"Error: {fault.message}\n"
  | .substrate fault => reportWithCause "building Kubernetes client" fault.message
  | .broker fault => reportWithCause "connecting to message broker" fault.message

/-- The exit status of a program that fails. -/
def failureStatus : Nat := 1

/-- The clients of a program that has started. -/
structure Services (κ : Type) where
  limits : Settings.Limits
  api : Http.Client
  substrate : Http.Client
  broker : Amqp.Client κ

/-- Start the program in an environment. -/
def start {m : Type → Type} [Monad m] {κ σ ρ : Type} (peer : Amqp.Peer m κ σ ρ)
    (environment : Settings.Environment) : m (Except Failure (Services κ)) := do
  match Settings.load environment with
  | .error fault => return .error (.settings fault)
  | .ok settings =>
    let api := Http.Client.ofAddress settings.api.address settings.api.token
    match PodClient.ofSettings settings.substrate.address settings.substrate.token with
    | .error fault => return .error (.substrate fault)
    | .ok substrate =>
      match ← Amqp.Client.connect peer settings.broker with
      | (.error fault, _) => return .error (.broker fault)
      | (.ok (), broker) => return .ok ⟨settings.limits, api, substrate, broker⟩

end Turnstile.CommandLine
