import Turnstile.Broker.Exchange
import Turnstile.Capacity.Gate
import Turnstile.Consumer
import Turnstile.Deletion
import Turnstile.ProjectManager
import Turnstile.Registry
import Turnstile.Scheduler
import Turnstile.Settings
import Turnstile.Simulation.Services
import Turnstile.Synchronizer

/-!
# A world on a virtual clock

The world holds the services and the tasks that use them. Nothing takes time in it except explicit
delays, and the clock moves only when no task can go on.

**Turns.** A task that can go on has a signal in the line of signals. Signals are served first
come, first served; what a task does at once continues its turn, so its own signals go to the head
of the line. Each wait of a task has a serial number, and a signal for an earlier wait is stale.

**Scopes.** A task belongs to a scope. Scopes form a tree, and cancelling one cancels all below it.

**Offices.** Tasks that share a gate and the place for fatal faults belong to one office.
-/

set_option autoImplicit false

namespace Turnstile.Simulation

/-! ## Tasks -/

/-- A reader of a consumer. -/
inductive Reader where
  | broker (reader : ReaderRef)
  | scripted

/-- A message in the hands of a consumer. -/
inductive Parcel where
  | broker (delivery : Delivery)
  | scripted (body : String)

/-- The text of a message. -/
def Parcel.body : Parcel → String
  | broker delivery => delivery.message.body
  | scripted body => body

/-- A reply that a consumer waits for: it is settled already, or when the wait is over. -/
inductive PendingReply where
  | settled (input : Consumer.Input Reader Parcel)
  | fetch (work : Work)
  | start (work : Work)

/-- A consumer loop at work. -/
structure ConsumerTask where
  kind : WorkKind
  project : ProjectId
  script : Option Script
  stage : Consumer.Stage Reader Parcel
  pending : Option PendingReply

/-- A synchronizer at work. -/
structure SynchronizerTask where
  kind : WorkKind
  stage : Synchronizer.Stage
  pending : Option Synchronizer.Input

/-- The project manager at work. -/
structure ProjectsTask where
  stage : ProjectManager.Stage
  registry : Registry

/-- What a task does. -/
inductive Body where
  | consumer (task : ConsumerTask)
  | synchronizer (task : SynchronizerTask)
  | deletion (pod : PodName) (stage : Deletion.Stage)
  | capacity (kind : WorkKind) (stage : CapacityManager.Stage)
  | projects (task : ProjectsTask)
  | scheduler (stage : Scheduler.Stage)

/-- Whether the wait of a task can be cancelled. -/
def Body.isCancellable : Body → Bool
  | consumer task => task.stage.isCancellable
  | synchronizer task => task.stage.isCancellable
  | deletion _ .sleeping => true
  | capacity _ (.waiting _) => true
  | projects ⟨.waiting _, _⟩ => true
  | scheduler .running => true
  | _ => false

/-- A task. -/
structure Task where
  body : Body
  office : Nat
  scope : Nat
  /-- Whether the office counts the task among those that are waited for at the end. -/
  isGrouped : Bool
  /-- The number of its present wait. -/
  serial : Nat

/-- Why a task can go on. -/
inductive Signal where
  /-- It has its first turn. -/
  | began
  /-- The reply that it waits for is there. -/
  | replied
  /-- Its scope is cancelled. -/
  | cancelled
  /-- What it waits for may be there. -/
  | woken
  /-- The time for its wait is up. -/
  | expired
deriving DecidableEq, Repr

/-- A signal for a wait of a task. -/
structure Wake where
  task : Nat
  serial : Nat
  signal : Signal
deriving DecidableEq, Repr

/-- A signal that comes at a time. -/
structure Timer where
  due : Nat
  wake : Wake
deriving DecidableEq, Repr

/-! ## Notes -/

/-- What is noted. -/
inductive Notice where
  /-- A call to the API. -/
  | called (call : ApiCall)
  /-- A start that has succeeded. -/
  | started (work : Work)
  | listed (kind : WorkKind)
  | watched (kind : WorkKind) (version : String)
  | deleted (pod : PodName)
  /-- A script was asked for a reader. -/
  | opened (queue : String)
  | read
  | acknowledged (body : String)
  | closing
  | closed
  /-- A capacity manager has compared the pods it counted with its ceiling; whether an admission
  was delivered. -/
  | ticked (kind : WorkKind) (count ceiling : Nat) (isDelivered : Bool)
deriving DecidableEq

/-- The text of a note that is reported. -/
def Notice.text? : Notice → Option String
  | called call => some call.text
  | started work => some (startedText work)
  | listed kind => some s!"list {kind.selector}"
  | watched kind version => some s!"watch {kind.selector} from {Text.quote version}"
  | deleted pod => some s!"delete {pod.text}"
  | opened queue => some s!"open {queue}"
  | read => some "read"
  | acknowledged body => some s!"ack {Text.quote body}"
  | closing => some "close"
  | closed => some "closed"
  | ticked _ _ _ _ => none

/-! ## The world -/

/-- A scope: the scopes above it, and whether it is cancelled. -/
structure Scope where
  above : List Nat
  isCancelled : Bool
deriving DecidableEq, Repr

/-- What the tasks of an office share. -/
structure Office extends Gate Nat where
  fatal : FatalSlot

namespace Office

/-- An office at its start. -/
def fresh : Office := ⟨.fresh, .empty⟩

/-- The office with a line for admission replaced. -/
def setAdmission (office : Office) (kind : WorkKind) (admission : Admission Nat) : Office :=
  { office with toGate := office.toGate.setAdmission kind admission }

end Office

/-- The end of a component: its name and, for a scheduler, its outcome with the time. -/
structure Finish where
  name : String
  outcome : Option (Scheduler.Outcome × Nat)

/-- A component that was started by name: its task and its scope. -/
structure Component where
  task : Nat
  scope : Nat
deriving DecidableEq, Repr

/-- The world. -/
structure World where
  limits : Settings.Limits
  now : Nat
  /-- What has been noted, latest first. -/
  log : List (Nat × Notice)
  signals : List Wake
  timers : List Timer
  tasks : Table Nat Task
  nextTask : Nat
  scopes : Table Nat Scope
  nextScope : Nat
  offices : Table Nat Office
  nextOffice : Nat
  exchange : Exchange Nat
  api : Api
  substrate : Substrate
  components : Table String Component
  finished : List Finish

/-- The scope above all others. -/
def rootScope : Nat := 0

/-- The office of the components that do not bring their own. -/
def sharedOffice : Nat := 0

namespace World

/-- The world at its start. -/
def fresh (limits : Settings.Limits) : World where
  limits
  now := 0
  log := []
  signals := []
  timers := []
  tasks := .empty
  nextTask := 0
  scopes := .ofList [(rootScope, ⟨[], false⟩)]
  nextScope := rootScope + 1
  offices := .ofList [(sharedOffice, .fresh)]
  nextOffice := sharedOffice + 1
  exchange := .fresh
  api := .fresh
  substrate := .fresh
  components := .empty
  finished := []

/-- Take a note. -/
def note (world : World) (notice : Notice) : World :=
  { world with log := (world.now, notice) :: world.log }

/-! ### Scopes -/

/-- Whether a scope is cancelled. -/
def isCancelled (world : World) (scope : Nat) : Bool :=
  ((world.scopes.get? scope).map (·.isCancelled)).getD true

/-- Open a scope below another one; below one that is cancelled it is cancelled from the start. -/
def openScope (world : World) (parent : Nat) : Nat × World :=
  let above := ((world.scopes.get? parent).map (·.above)).getD []
  (world.nextScope,
    { world with
      scopes := world.scopes.set world.nextScope ⟨parent :: above, world.isCancelled parent⟩
      nextScope := world.nextScope + 1 })

/-- Cancel a scope and all below it; the tasks in them whose wait can be cancelled are told. -/
def cancelScope (world : World) (target : Nat) : World :=
  let isHit (scope : Nat) : Bool :=
    scope == target || ((world.scopes.get? scope).map (·.above.contains target)).getD false
  let told := world.tasks.bindings.filter fun (_, task) =>
    isHit task.scope && !world.isCancelled task.scope && task.body.isCancellable
  { world with
    scopes := ⟨world.scopes.bindings.map fun (number, scope) =>
      (number, if isHit number then { scope with isCancelled := true } else scope)⟩
    signals := world.signals ++ told.map fun (number, task) => ⟨number, task.serial, .cancelled⟩ }

/-! ### Signals and waits -/

/-- Put a signal for the present wait of a task at the end of the line. -/
def signal (world : World) (task : Nat) (signal : Signal) : World :=
  match world.tasks.get? task with
  | none => world
  | some found => { world with signals := world.signals ++ [⟨task, found.serial, signal⟩] }

/-- Put a signal for the present wait of a task at the head of the line. -/
def signalAtOnce (world : World) (task : Nat) (signal : Signal) : World :=
  match world.tasks.get? task with
  | none => world
  | some found => { world with signals := ⟨task, found.serial, signal⟩ :: world.signals }

/-- Let a signal for the present wait of a task come after a delay, or at once. -/
def signalAfter (world : World) (task : Nat) (delay : Nat) (signal : Signal) : World :=
  if delay = 0 then world.signalAtOnce task signal
  else
    match world.tasks.get? task with
    | none => world
    | some found =>
      { world with
        timers := world.timers ++ [⟨world.now + delay, ⟨task, found.serial, signal⟩⟩] }

/-- Begin a new wait of a task. -/
def beginWait (world : World) (number : Nat) (body : Body) : World :=
  match world.tasks.get? number with
  | none => world
  | some task =>
    { world with tasks := world.tasks.set number { task with body, serial := task.serial + 1 } }

/-- Start a task. -/
def spawn (world : World) (body : Body) (office scope : Nat) (isGrouped : Bool) : World :=
  { world with
    tasks := world.tasks.set world.nextTask ⟨body, office, scope, isGrouped, 0⟩
    nextTask := world.nextTask + 1
    signals := world.signals ++ [⟨world.nextTask, 0, .began⟩] }

/-- Start tasks one after the other. -/
def spawnAll (world : World) (bodies : List Body) (office scope : Nat) : World :=
  bodies.foldl (fun world body => world.spawn body office scope true) world

/-! ### Offices -/

/-- An office by its number. -/
def office (world : World) (number : Nat) : Office := (world.offices.get? number).getD .fresh

/-- The world with an office replaced. -/
def setOffice (world : World) (number : Nat) (office : Office) : World :=
  { world with offices := world.offices.set number office }

/-- The world with the tracker of an office replaced. -/
def setTracker (world : World) (number : Nat) (tracker : Tracker) : World :=
  world.setOffice number { world.office number with tracker }

/-- The number of tasks that an office counts. -/
def groupSize (world : World) (number : Nat) : Nat :=
  (world.tasks.values.filter fun task => task.office == number && task.isGrouped).length

/-- Wake the schedulers of an office. -/
def wakeSchedulers (world : World) (number : Nat) : World :=
  let schedulers := world.tasks.bindings.filter fun (_, task) =>
    match task.body with
    | .scheduler _ => task.office == number
    | _ => false
  schedulers.foldl (fun world binding => world.signal binding.1 .woken) world

/-- Report a fatal fault in an office. -/
def report (world : World) (number : Nat) (fault : FatalFault) : World :=
  let office := world.office number
  (world.setOffice number { office with fatal := office.fatal.report fault }).wakeSchedulers number

/-- Make an offer to the line of an office; whether it was delivered. -/
def offerWith (world : World) (number : Nat) (kind : WorkKind)
    (offer : Gate Nat → Bool × Gate Nat) : Bool × World :=
  let office := world.office number
  let (delivered, gate) := offer office.toGate
  let world := world.setOffice number { office with toGate := gate }
  match delivered, (gate.admission kind).handed.getLast? with
  | true, some task => (true, world.signal task .woken)
  | _, _ => (false, world)

/-- End a task. -/
def finish (world : World) (number : Nat) (outcome : Option Scheduler.Outcome) : World :=
  match world.tasks.get? number with
  | none => world
  | some task =>
    let ended := world.components.bindings.filter fun binding => binding.2.task == number
    let world := { world with
      tasks := world.tasks.erase number
      components := ⟨world.components.bindings.filter fun binding => binding.2.task != number⟩
      finished := world.finished ++ ended.map fun binding =>
        ⟨binding.1, outcome.map fun result => (result, world.now)⟩ }
    if task.isGrouped && world.groupSize task.office == 0 then world.wakeSchedulers task.office
    else world

/-! ### Services -/

/-- The world with the broker replaced; the reads that were woken get signals. -/
def setExchange (world : World) (exchange : Exchange Nat) : World :=
  exchange.woken.foldl (fun world read => world.signal read.owner .woken)
    { world with exchange := { exchange with woken := [] } }

/-- Change the substrate in what concerns a kind; its watches are looked at again. -/
def setSubstrate (world : World) (substrate : Substrate) : World :=
  (substrate.watchers .worker ++ substrate.watchers .job).foldl
    (fun world owner => world.signal owner .woken) { world with substrate }

end World

end Turnstile.Simulation
