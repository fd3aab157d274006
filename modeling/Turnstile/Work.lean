import Turnstile.Event
import Turnstile.Fault

/-!
# Work

A message on a queue names a piece of work: a worker is named by its event, a job by its event
and its own name with a colon between them. What a message is worth depends on the event as the
API knows it at that moment: only pending work is dispatched, everything else is discarded.
-/

set_option autoImplicit false

namespace Turnstile

/-- A piece of work that can be started. -/
inductive Work where
  | worker (event : EventId)
  | job (event : EventId) (name : JobName)
deriving DecidableEq

namespace Work

/-- The kind of the work. -/
def kind : Work → WorkKind
  | worker _ => .worker
  | job _ _ => .job

/-- The event that the work belongs to. -/
def event : Work → EventId
  | worker event => event
  | job event _ => event

/-- The message that asks for the work. -/
def message : Work → String
  | worker event => event.text
  | job event name => s!"{event.text}:{name.text}"

/-- The work that a message on a queue of the kind asks for. -/
def ofMessage? (kind : WorkKind) (body : String) : Option Work :=
  match kind with
  | .worker => (Identifier.parse? .event body).map .worker
  | .job =>
    let first := body.toList.takeWhile (· ≠ ':')
    match body.toList.dropWhile (· ≠ ':') with
    | [] => none
    | _ :: second =>
      if ':' ∈ second then none
      else do
        let event ← Identifier.parse? .event (String.ofList first)
        let name ← Identifier.parse? .job (String.ofList second)
        return .job event name

/-- The phase of the work in its event; none if the event has no such job. -/
def phaseIn? (event : Event) : Work → Option Phase
  | worker _ => some event.phase
  | job _ name => event.jobPhase? name

/-- Whether the work still has to be started, as the API tells about its event. -/
def isWanted (work : Work) (answer : Except ApiFault Event) : Bool :=
  match answer with
  | .ok event => work.phaseIn? event == some .pending
  | .error _ => false

end Work

/-- A call to the orchestration API. -/
inductive ApiCall where
  | getEvent (event : EventId)
  | start (work : Work)
  | listProjects
deriving DecidableEq

namespace ApiCall

/-- The written form of a call. -/
def text : ApiCall → String
  | getEvent event => s!"get_event {event.text}"
  | start (.worker event) => s!"start_worker {event.text}"
  | start (.job event name) => s!"start_job {event.text} {name.text}"
  | listProjects => "list_projects"

end ApiCall

/-- What becomes of a message. -/
inductive Disposition where
  /-- There is nothing to start. -/
  | discard
  /-- The work is to be started when it is admitted. -/
  | dispatch (work : Work)
deriving DecidableEq

/-- Decide on a message, given how the API answers about events, with the calls this takes. -/
def Disposition.ofMessage (kind : WorkKind) (body : String)
    (answer : EventId → Except ApiFault Event) : Disposition × List ApiCall :=
  match Work.ofMessage? kind body with
  | none => (.discard, [])
  | some work =>
    (if work.isWanted (answer work.event) then .dispatch work else .discard,
      [.getEvent work.event])

/-- The calls that starting the work of a decision takes. -/
def Disposition.startCalls : Disposition → List ApiCall
  | .discard => []
  | .dispatch work => [.start work]

end Turnstile
