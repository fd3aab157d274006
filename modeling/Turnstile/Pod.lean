import Turnstile.PodName
import Turnstile.Table
import Turnstile.Time.Timestamp

/-!
# Pods

What the substrate tells about the pods in which workers and jobs run, as far as scheduling needs
it. A pod uses capacity until it has finished or its deletion is requested.
-/

set_option autoImplicit false

namespace Turnstile

/-- The two kinds of work, which are admitted and counted apart. -/
inductive WorkKind where
  | worker
  | job
deriving DecidableEq, Repr

namespace WorkKind

/-- The written form of a kind. -/
def text : WorkKind → String
  | worker => "worker"
  | job => "job"

/-- The label that tells the kind of a pod. -/
def componentLabel : String := "brigade.sh/component"

/-- The selector of the pods of a kind. -/
def selector (kind : WorkKind) : String := s!"{componentLabel}={kind.text}"

/-- The queue on which a project's messages of a kind are sent. -/
def queueName (kind : WorkKind) (project : String) : String :=
  match kind with
  | worker => s!"workers.{project}"
  | job => s!"jobs.{project}"

end WorkKind

/-- The phase of a pod. -/
inductive PodPhase where
  | pending
  | running
  | succeeded
  | failed
  | unknown
deriving DecidableEq, Repr

namespace PodPhase

/-- The written form of a phase. -/
def text : PodPhase → String
  | pending => "Pending"
  | running => "Running"
  | succeeded => "Succeeded"
  | failed => "Failed"
  | unknown => "Unknown"

/-- The phase of a written form; every other text is an unknown phase. -/
def ofText (text : String) : PodPhase :=
  ([pending, running, succeeded, failed].find? fun phase => phase.text = text).getD unknown

/-- Whether the pod has finished. -/
def isTerminal : PodPhase → Bool
  | succeeded => true
  | failed => true
  | _ => false

end PodPhase

/-- How a container has ended. -/
structure Termination where
  exitCode : Int
  reason : Option String
  finishedAt : Option Time.Timestamp
deriving DecidableEq, Repr

/-- A container of a pod. -/
structure Container where
  name : String
  termination : Option Termination
deriving DecidableEq, Repr

/-- A pod as the substrate reports it. -/
structure Pod where
  name : PodName
  deletionTimestamp : Option Time.Timestamp
  resourceVersion : Option String
  labels : Table String String
  phase : PodPhase
  startTime : Option Time.Timestamp
  containers : List Container

namespace Pod

/-- Whether the deletion of the pod is requested. -/
def isBeingDeleted (pod : Pod) : Bool := pod.deletionTimestamp.isSome

/-- Whether the pod uses capacity. -/
def usesCapacity (pod : Pod) : Bool := !pod.isBeingDeleted && !pod.phase.isTerminal

/-- Whether the pod has finished and nobody has requested its deletion yet. -/
def isFinished (pod : Pod) : Bool := !pod.isBeingDeleted && pod.phase.isTerminal

/-- How the first container has ended, if it has. -/
def termination (pod : Pod) : Option Termination := pod.containers.head?.bind (·.termination)

end Pod

/-- A listing of pods: the version it shows and the token that continues it. -/
structure PodPage where
  pods : List Pod
  resourceVersion : Option String
  next : Option String

namespace PodPage

/-- The token of the page after this one, if there is one. An empty token means none. -/
def continuation (page : PodPage) : Option String := page.next.filter (· ≠ "")

end PodPage

end Turnstile
