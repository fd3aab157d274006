import Turnstile.Pod.Watch
import Turnstile.Work

/-!
# Services for simulations

An orchestration API and a substrate that live in memory and can be told to fail, and scripts that
stand in for a message broker. They answer as the real services would, at the moment they are
asked.
-/

set_option autoImplicit false

namespace Turnstile.Simulation

/-! ## The orchestration API -/

/-- What the API knows and how it behaves; latencies in milliseconds. -/
structure Api where
  events : Table String Event
  projects : List ProjectId
  failsGet : Bool
  failsStarts : Bool
  failsProjects : Bool
  /-- Whether a start puts a pod into the substrate. -/
  createsPods : Bool
  getLatency : Nat
  startLatency : Nat
  listLatency : Nat

namespace Api

/-- An API that knows nothing and answers at once. -/
def fresh : Api := ⟨.empty, [], false, false, false, false, 0, 0, 0⟩

/-- The fault of a call that is told to fail. -/
def boom : ApiFault := .status 500 "boom"

/-- Answer about an event. -/
def getEvent (api : Api) (id : EventId) : Except ApiFault Event :=
  if api.failsGet then .error boom
  else
    match api.events.get? id.text with
    | some event => .ok event
    | none => .error (.notFound s!"event {id.text}")

/-- An event with the phase of a piece of work changed, if it has that work. -/
def setPhase (event : Event) (phase : Phase) : Work → Event
  | .worker _ => { event with phase }
  | .job _ name =>
    if event.jobs.contains name.text then { event with jobs := event.jobs.set name.text phase }
    else event

/-- Start a piece of work. Its event need not be known any more. -/
def start (api : Api) (work : Work) : Except ApiFault Api :=
  if api.failsStarts then .error boom
  else
    match api.events.get? work.event.text with
    | some event =>
      .ok { api with events := api.events.set work.event.text (setPhase event .starting work) }
    | none => .ok api

/-- List the projects. -/
def listProjects (api : Api) : Except ApiFault (List ProjectId) :=
  if api.failsProjects then .error (.status 503 "unavailable") else .ok api.projects

end Api

/-- The pod that a piece of work runs in. -/
def podNameOf : Work → PodName
  | .worker event => ⟨"brigade", s!"worker-{event.text}"⟩
  | .job event name => ⟨"brigade", s!"job-{event.text}-{name.text}"⟩

/-- The pod of a piece of work that has just been started. -/
def podOf (work : Work) : Pod where
  name := podNameOf work
  deletionTimestamp := none
  resourceVersion := none
  labels := .empty
  phase := .pending
  startTime := none
  containers := []

/-- What is noted when a piece of work has been started. -/
def startedText : Work → String
  | .worker event => s!"started_worker {event.text}"
  | .job event name => s!"started_job {event.text} {name.text}"

/-! ## The substrate -/

/-- An item of a watch. -/
abbrev WatchItem := Except SubstrateFault WatchEvent

/-- An open watch: the items that have not been taken yet. -/
structure Watch where
  kind : WorkKind
  items : List WatchItem
  isEnded : Bool

/-- The substrate: pods by kind, open watches by owner, and how it behaves. -/
structure Substrate where
  workers : Table PodName Pod
  jobs : Table PodName Pod
  /-- How often the pods have changed. -/
  version : Nat
  watches : Table Nat Watch
  failsList : Bool
  failsWatch : Bool
  failsDelete : Bool
  /-- Whether deleted pods stay. -/
  keepsDeleted : Bool
  hidesVersion : Bool

namespace Substrate

/-- A substrate without pods. -/
def fresh : Substrate := ⟨.empty, .empty, 0, .empty, false, false, false, false, false⟩

/-- The pods of a kind. -/
def pods (substrate : Substrate) : WorkKind → Table PodName Pod
  | .worker => substrate.workers
  | .job => substrate.jobs

/-- The substrate with the pods of a kind replaced, under a new version. -/
def setPods (substrate : Substrate) (kind : WorkKind) (pods : Table PodName Pod) : Substrate :=
  let substrate := { substrate with version := substrate.version + 1 }
  match kind with
  | .worker => { substrate with workers := pods }
  | .job => { substrate with jobs := pods }

/-- Add an item to the open watches of a kind. -/
def tell (substrate : Substrate) (kind : WorkKind) (item : WatchItem) : Substrate :=
  { substrate with
    watches := substrate.watches.mapValues fun watch =>
      if watch.kind = kind ∧ !watch.isEnded then { watch with items := watch.items ++ [item] }
      else watch }

/-- End the open watches of a kind. -/
def endWatches (substrate : Substrate) (kind : WorkKind) : Substrate :=
  { substrate with
    watches := substrate.watches.mapValues fun watch =>
      if watch.kind = kind then { watch with isEnded := true } else watch }

/-- The owners of the open watches of a kind. -/
def watchers (substrate : Substrate) (kind : WorkKind) : List Nat :=
  (substrate.watches.bindings.filter fun binding => binding.2.kind = kind).map (·.1)

/-- Put a pod in, under a new version. -/
def put (substrate : Substrate) (kind : WorkKind) (pod : Pod) : Substrate :=
  let pods := substrate.pods kind
  let pod := { pod with resourceVersion := some (toString (substrate.version + 1)) }
  let event := if pods.contains pod.name then WatchEvent.modified pod else .added pod
  (substrate.setPods kind (pods.set pod.name pod)).tell kind (.ok event)

/-- Take a pod out; whether it was there. A silent removal is not told to the watches. -/
def remove (substrate : Substrate) (kind : WorkKind) (name : PodName) (isSilent : Bool) :
    Bool × Substrate :=
  let pods := substrate.pods kind
  match pods.get? name with
  | none => (false, substrate)
  | some pod =>
    let after := substrate.setPods kind (pods.erase name)
    (true, if isSilent then after else after.tell kind (.ok (.deleted pod)))

/-- List the pods of a kind, in the order of their names. -/
def list (substrate : Substrate) (kind : WorkKind) : Except SubstrateFault PodPage :=
  if substrate.failsList then .error (.status 500 "list failed")
  else
    .ok {
      pods := (substrate.pods kind).values.mergeSort fun first second =>
        !decide (second.name < first.name)
      resourceVersion := if substrate.hidesVersion then none else some (toString substrate.version)
      next := none }

/-- Open a watch. -/
def watch (substrate : Substrate) (kind : WorkKind) (owner : Nat) :
    Except SubstrateFault Substrate :=
  if substrate.failsWatch then .error (.status 410 "too old")
  else .ok { substrate with watches := substrate.watches.set owner ⟨kind, [], false⟩ }

/-- Give up a watch. -/
def unwatch (substrate : Substrate) (owner : Nat) : Substrate :=
  { substrate with watches := substrate.watches.erase owner }

/-- Delete a pod. -/
def delete (substrate : Substrate) (name : PodName) : Except SubstrateFault Substrate :=
  if substrate.failsDelete then .error (.status 403 "forbidden")
  else if substrate.keepsDeleted then .ok substrate
  else .ok ((substrate.remove .worker name false).2.remove .job name false).2

end Substrate

/-! ## Scripts in place of a broker -/

/-- A read of a script: after a delay in milliseconds it yields a body or fails. -/
structure ScriptedRead where
  delay : Nat
  result : Except String String

/-- The opening of a reader by a script: after a delay it yields a reader or fails. -/
structure Opening where
  delay : Nat
  failure : Option String
  reads : List ScriptedRead
  closeDelay : Nat

/-- The openings still to come, and the reader that is open. -/
structure Script where
  openings : List Opening
  current : Opening

/-- A script at its start. -/
def Script.ofOpenings (openings : List Opening) : Script := ⟨openings, ⟨0, none, [], 0⟩⟩

end Turnstile.Simulation
