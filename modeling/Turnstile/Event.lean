import Turnstile.Identifier
import Turnstile.Table

/-!
# Events

An event is work to be done for a project. A worker handles it and may have jobs, each with a
name. Worker and jobs go through phases; only what is `pending` still needs to be started.
-/

set_option autoImplicit false

namespace Turnstile

/-- The phase of a worker or of a job. -/
inductive Phase where
  | pending
  | starting
  | running
  | succeeded
  | failed
  | aborted
  | canceled
  | timedOut
  | schedulingFailed
  | unknown
deriving DecidableEq, Repr

namespace Phase

/-- The written form of a phase. -/
def text : Phase → String
  | pending => "PENDING"
  | starting => "STARTING"
  | running => "RUNNING"
  | succeeded => "SUCCEEDED"
  | failed => "FAILED"
  | aborted => "ABORTED"
  | canceled => "CANCELED"
  | timedOut => "TIMED_OUT"
  | schedulingFailed => "SCHEDULING_FAILED"
  | unknown => "UNKNOWN"

/-- The phases other than `unknown`. -/
def named : List Phase :=
  [pending, starting, running, succeeded, failed, aborted, canceled, timedOut, schedulingFailed]

/-- The phase of a written form; every other text is an unknown phase. -/
def ofText (text : String) : Phase :=
  (named.find? fun phase => phase.text = text).getD unknown

@[simp] theorem ofText_text (phase : Phase) : ofText phase.text = phase := by
  cases phase <;> decide +kernel

end Phase

/-- An event with the phases of its worker and of the worker's jobs by name. -/
structure Event where
  id : EventId
  project : Option ProjectId
  phase : Phase
  jobs : Table String Phase

namespace Event

/-- The phase of a job, if the event has one of that name. -/
def jobPhase? (event : Event) (job : JobName) : Option Phase := event.jobs.get? job.text

/-- Whether the worker still has to be started. -/
def isPending (event : Event) : Bool := event.phase = .pending

end Event

/-- A page of the project list, with the token that continues it. -/
structure ProjectPage where
  projects : List ProjectId
  next : Option String
deriving DecidableEq

namespace ProjectPage

/-- The token of the page after this one, if there is one. An empty token means none. -/
def continuation (page : ProjectPage) : Option String := page.next.filter (· ≠ "")

end ProjectPage

end Turnstile
