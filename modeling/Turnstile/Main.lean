import Turnstile.CommandLine

/-!
The program. It has no network transport of its own, so no dial of the broker reaches it.
-/

set_option autoImplicit false

open Turnstile

/-- Read the variables that the settings name. -/
def readEnvironment : IO Settings.Environment := do
  let bindings ← Settings.variableNames.mapM fun name => return (name, ← IO.getEnv name)
  return fun name => (bindings.find? fun binding => binding.1 = name).bind (·.2)

/-- Start, and report a failure. -/
def main : IO UInt32 := do
  let pause (milliseconds : Nat) : IO Unit := IO.sleep milliseconds.toUInt32
  match ← CommandLine.start (Amqp.Peer.unreachable pause) (← readEnvironment) with
  | .ok _ => return 0
  | .error failure =>
    (← IO.getStderr).putStr failure.report
    return CommandLine.failureStatus.toUInt32
