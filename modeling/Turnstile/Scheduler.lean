import Turnstile.Fault

/-!
# The scheduler

The scheduler lists the pods of both kinds, the workers' first, and then starts everything at once:
two synchronizers, two capacity managers and the project manager. It runs until it is cancelled or
a fault ends it; then it cancels all that it has started and waits, for a limited time, until the
tasks have ended. Its result is settled before that wait.
-/

set_option autoImplicit false

namespace Turnstile.Scheduler

/-- How a run comes out. -/
abbrev Outcome := Except FatalFault Unit

/-- What the scheduler is waiting for. -/
inductive Stage where
  | idle
  /-- For the first listing of a kind. -/
  | syncing (kind : WorkKind)
  | running
  | draining (outcome : Outcome)
  | returned (outcome : Outcome)

/-- What happens to the scheduler. -/
inductive Input where
  | began
  | listed (result : Except SubstrateFault PodPage)
  | cancelled
  | reported (fault : FatalFault)
  /-- All tasks have ended, or the time for it is up. -/
  | drained

/-- What the scheduler does on an input. -/
inductive Command where
  /-- Take in the first listing of a kind. -/
  | takeListing (kind : WorkKind) (page : PodPage)
  /-- Start all components. -/
  | launch
  /-- Cancel all that was started. -/
  | cancelAll

/-- The kind whose pods are listed after those of a kind. -/
def following : WorkKind → Option WorkKind
  | .worker => some .job
  | .job => none

/-- The stage after an input, and what is to be done; none if the input does not belong to the
stage. -/
def step : Stage → Input → Option (Stage × List Command)
  | .idle, .began => some (.syncing .worker, [])
  | .syncing kind, .listed (.ok page) =>
    match following kind with
    | some next => some (.syncing next, [.takeListing kind page])
    | none => some (.running, [.takeListing kind page, .launch])
  | .syncing kind, .listed (.error cause) =>
    some (.draining (.error (.initialSync kind cause)), [.cancelAll])
  | .running, .cancelled => some (.draining (.ok ()), [.cancelAll])
  | .running, .reported fault => some (.draining (.error fault), [.cancelAll])
  | .draining outcome, .drained => some (.returned outcome, [])
  | _, _ => none

end Turnstile.Scheduler
