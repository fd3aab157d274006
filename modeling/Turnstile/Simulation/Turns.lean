import Turnstile.Simulation.World

/-!
# Turns of tasks

What a task does when a signal for its present wait is served. A task takes the input that the
signal stands for, goes on to its next stage and starts what that stage waits for. A wait that can
be cancelled is not begun at all in a scope that is cancelled.
-/

set_option autoImplicit false

namespace Turnstile.Simulation.World

/-! ## Consumers -/

section Consumers

variable (world : World) (number : Nat) (task : Task)

/-- Begin the wait of a consumer with a reply that is settled after a delay. -/
def waitForReply (consumer : ConsumerTask) (delay : Nat) (reply : PendingReply) : World :=
  (world.beginWait number (.consumer { consumer with pending := some reply })).signalAfter number
    delay .replied

/-- Begin the wait of a consumer for something that wakes it. -/
def waitForWaking (consumer : ConsumerTask) : World :=
  world.beginWait number (.consumer { consumer with pending := none })

/-- Ask for a reader. -/
def beginOpening (consumer : ConsumerTask) : World :=
  let queue := consumer.kind.queueName consumer.project.text
  match consumer.script with
  | none =>
    match world.exchange.openReader queue with
    | .ok (reader, exchange) =>
      (world.setExchange exchange).waitForReply number consumer 0
        (.settled (.opened (.ok (.broker reader))))
    | .error fault => world.waitForReply number consumer 0 (.settled (.opened (.error fault)))
  | some script =>
    let world := world.note (.opened queue)
    match script.openings with
    | [] => world.waitForWaking number consumer
    | opening :: openings =>
      let result := match opening.failure with
        | some failure => .error (.connect failure)
        | none => .ok .scripted
      world.waitForReply number { consumer with script := some ⟨openings, opening⟩ } opening.delay
        (.settled (.opened result))

/-- Try to read from the broker; if there is nothing the read waits there. -/
def tryReading (consumer : ConsumerTask) (reader : ReaderRef) : World :=
  let (outcome, exchange) := world.exchange.attempt ⟨number, reader⟩
  let world := world.setExchange exchange
  match outcome with
  | .delivered delivery =>
    world.waitForReply number consumer 0 (.settled (.received (.ok (.broker delivery))))
  | .failed fault => world.waitForReply number consumer 0 (.settled (.received (.error fault)))
  | .waits => world.waitForWaking number consumer

/-- Take the next read of a script. -/
def readScript (consumer : ConsumerTask) (script : Script) : World :=
  let world := world.note .read
  match script.current.reads with
  | [] => world.waitForWaking number consumer
  | read :: reads =>
    let result := match read.result with
      | .ok body => .ok (.scripted body)
      | .error detail => .error (.receive "script" detail)
    let script := { script with current := { script.current with reads } }
    world.waitForReply number { consumer with script := some script } read.delay
      (.settled (.received result))

/-- Inspect a message: only one that asks for work needs the API. -/
def beginInspecting (consumer : ConsumerTask) (parcel : Parcel) : World :=
  match Work.ofMessage? consumer.kind parcel.body with
  | none => world.waitForReply number consumer 0 (.settled (.inspected .discard))
  | some work =>
    (world.note (.called (.getEvent work.event))).waitForReply number consumer
      world.api.getLatency (.fetch work)

/-- Acknowledge a message. -/
def acknowledge (consumer : ConsumerTask) (parcel : Parcel) : World :=
  let world := match parcel with
    | .broker delivery => world.setExchange (world.exchange.acknowledge delivery)
    | .scripted body => world.note (.acknowledged body)
  world.waitForReply number consumer 0 (.settled .acknowledged)

/-- Close a reader, within the time there is for it. -/
def beginClosing (consumer : ConsumerTask) (reader : Reader) : World :=
  match reader, consumer.script with
  | .broker reader, _ =>
    (world.setExchange (world.exchange.closeReader reader)).waitForReply number consumer 0
      (.settled (.closed false))
  | .scripted, script =>
    let delay := (script.map (·.current.closeDelay)).getD 0
    let waiting :=
      (world.note .closing).waitForReply number consumer delay (.settled (.closed false))
    waiting.signalAfter number (max 1 world.limits.readerCloseTimeout) .expired

/-- Make a call of a consumer. -/
def makeCall (consumer : ConsumerTask) : Consumer.Call Reader Parcel → World
  | .openReader => world.beginOpening number consumer
  | .read (.broker reader) => world.tryReading number consumer reader
  | .read .scripted => world.readScript number consumer (consumer.script.getD (.ofOpenings []))
  | .inspect parcel => world.beginInspecting number consumer parcel
  | .wait =>
    let office := world.office task.office
    let line := (office.admission consumer.kind).wait number
    (world.setOffice task.office (office.setAdmission consumer.kind line)).waitForWaking number
      consumer
  | .dispatch work =>
    (world.note (.called (.start work))).waitForReply number consumer world.api.startLatency
      (.start work)
  | .acknowledge parcel => world.acknowledge number consumer parcel
  | .close reader => world.beginClosing number consumer reader
  | .report fault =>
    world.report task.office (.queueConnect (consumer.kind.queueName consumer.project.text) fault)

/-- Begin a stage of a consumer. -/
def enterConsumer (consumer : ConsumerTask) : World :=
  if consumer.stage.isCancellable && world.isCancelled task.scope then
    (world.waitForWaking number consumer).signalAtOnce number .cancelled
  else
    let world := match consumer.stage.call? with
      | some call => world.makeCall number task consumer call
      | none => world
    if consumer.stage.isOver then world.finish number none else world

/-- Give a consumer an input. -/
def feedConsumer (consumer : ConsumerTask) (input : Consumer.Input Reader Parcel) : World :=
  match consumer.stage.next? input with
  | none => world
  | some stage => world.enterConsumer number task { consumer with stage }

/-- Carry out a start at the API. -/
def startWork (work : Work) : World :=
  match world.api.start work with
  | .error _ => world
  | .ok api =>
    let world := { world with api }.note (.started work)
    if api.createsPods then world.setSubstrate (world.substrate.put work.kind (podOf work))
    else world

/-- Let go of what a consumer waits for. -/
def withdrawConsumer (consumer : ConsumerTask) : World :=
  match consumer.stage with
  | .reading _ => world.setExchange (world.exchange.withdraw (· == number))
  | .awaiting _ _ _ =>
    let office := world.office task.office
    world.setOffice task.office
      (office.setAdmission consumer.kind ((office.admission consumer.kind).withdraw number))
  | _ => world

/-- A turn of a consumer whose reply is there. -/
def settleConsumer (consumer : ConsumerTask) : PendingReply → World
  | .fetch work =>
    let isWanted := work.isWanted (world.api.getEvent work.event)
    world.feedConsumer number task consumer
      (.inspected (if isWanted then .dispatch work else .discard))
  | .start work => (world.startWork work).feedConsumer number task consumer .dispatched
  | .settled (.closed _) =>
    let world := if consumer.script.isSome then world.note .closed else world
    world.feedConsumer number task consumer (.closed (world.isCancelled task.scope))
  | .settled input => world.feedConsumer number task consumer input

/-- A turn of a consumer. -/
def turnConsumer (consumer : ConsumerTask) (signal : Signal) : World :=
  match signal, consumer.stage, consumer.pending with
  | .began, _, _ =>
    world.feedConsumer number task consumer (.began (world.isCancelled task.scope))
  | .cancelled, _, _ =>
    (world.withdrawConsumer number task consumer).feedConsumer number task consumer .cancelled
  | .expired, _, _ =>
    world.feedConsumer number task consumer (.closed (world.isCancelled task.scope))
  | .replied, _, some reply => world.settleConsumer number task consumer reply
  | .woken, .reading (.broker reader), _ => world.tryReading number consumer reader
  | .woken, .awaiting _ _ _, _ =>
    let office := world.office task.office
    match (office.admission consumer.kind).take? number with
    | none => world
    | some line =>
      (world.setOffice task.office (office.setAdmission consumer.kind line)).feedConsumer number
        task consumer .admitted
  | _, _, _ => world

end Consumers

/-! ## Synchronizers and deletions -/

section Synchronizers

variable (world : World) (number : Nat) (task : Task)

/-- Take in what an input has done to the tracker of an office; the deletions are started in the
scope of whoever noticed the pods. -/
def takeEffect (office scope : Nat) (effect : Synchronizer.Effect) : World :=
  (world.setTracker office effect.1).spawnAll
    (effect.2.map fun pod => .deletion pod .idle) office scope

/-- Begin the wait of a synchronizer with an input that comes after a delay. -/
def awaitInput (synchronizer : SynchronizerTask) (delay : Nat) (input : Synchronizer.Input) :
    World :=
  (world.beginWait number (.synchronizer { synchronizer with pending := some input })).signalAfter
    number delay .replied

/-- List the pods of a kind. -/
def listPods (kind : WorkKind) : Except SubstrateFault PodPage × World :=
  (world.substrate.list kind, world.note (.listed kind))

/-- Take the next item of a watch, if there is one. -/
def takeItem (synchronizer : SynchronizerTask) : World :=
  match world.substrate.watches.get? number with
  | some watch =>
    match watch.items with
    | item :: items =>
      let substrate := { world.substrate with
        watches := world.substrate.watches.set number { watch with items } }
      { world with substrate }.awaitInput number synchronizer 0 (.item item)
    | [] => if watch.isEnded then world.awaitInput number synchronizer 0 .ended else world
  | none => world.awaitInput number synchronizer 0 .ended

/-- Begin a stage of a synchronizer. -/
def enterSynchronizer (synchronizer : SynchronizerTask) : World :=
  let waiting := world.beginWait number (.synchronizer { synchronizer with pending := none })
  if synchronizer.stage.isCancellable && world.isCancelled task.scope then
    waiting.signalAtOnce number .cancelled
  else
    match synchronizer.stage with
    | .idle _ => world
    | .listing =>
      let (result, world) := world.listPods synchronizer.kind
      world.awaitInput number synchronizer 0 (.listed result)
    | .opening version =>
      let world := world.note (.watched synchronizer.kind version)
      match world.substrate.watch synchronizer.kind number with
      | .ok substrate =>
        { world with substrate }.awaitInput number synchronizer 0 (.opened (.ok ()))
      | .error fault => world.awaitInput number synchronizer 0 (.opened (.error fault))
    | .watching => waiting.takeItem number synchronizer
    | .resting =>
      { world with substrate := world.substrate.unwatch number }.awaitInput number synchronizer
        world.limits.watchRestartPause .rested
    | .stopped => { world with substrate := world.substrate.unwatch number }.finish number none

/-- Give a synchronizer an input. -/
def feedSynchronizer (synchronizer : SynchronizerTask) (input : Synchronizer.Input) : World :=
  let tracker := (world.office task.office).tracker
  match Synchronizer.step synchronizer.kind tracker synchronizer.stage input with
  | none => world
  | some (stage, effect) =>
    (world.takeEffect task.office task.scope effect).enterSynchronizer number task
      { synchronizer with stage }

/-- A turn of a synchronizer. -/
def turnSynchronizer (synchronizer : SynchronizerTask) (signal : Signal) : World :=
  match signal, synchronizer.pending with
  | .began, _ => world.feedSynchronizer number task synchronizer .began
  | .cancelled, _ => world.feedSynchronizer number task synchronizer .cancelled
  | .replied, some input => world.feedSynchronizer number task synchronizer input
  | .woken, none =>
    if synchronizer.stage = .watching then world.takeItem number synchronizer else world
  | _, _ => world

/-- Begin a stage of a deletion. -/
def enterDeletion (pod : PodName) (stage : Deletion.Stage) : World :=
  let waiting := world.beginWait number (.deletion pod stage)
  match stage with
  | .idle => world
  | .sleeping =>
    if world.isCancelled task.scope then waiting.signalAtOnce number .cancelled
    else waiting.signalAfter number world.limits.podDeletionDelay .expired
  | .deleting =>
    let waiting := waiting.note (.deleted pod)
    let after := match waiting.substrate.delete pod with
      | .ok substrate => waiting.setSubstrate substrate
      | .error _ => waiting
    after.signalAtOnce number .replied
  | .ended => world.finish number none

/-- A turn of a deletion. -/
def turnDeletion (pod : PodName) (stage : Deletion.Stage) (signal : Signal) : World :=
  let input : Deletion.Input := match signal with
    | .began => .began
    | .cancelled => .cancelled
    | .expired => .elapsed
    | _ => .answered (.ok ())
  match stage.next? input with
  | none => world
  | some stage => world.enterDeletion number task pod stage

end Synchronizers

/-! ## Capacity managers -/

section Capacity

variable (world : World) (number : Nat) (task : Task)

/-- The tick of a capacity manager of an office. -/
def tick (office : Nat) (kind : WorkKind) : World :=
  let count := (world.office office).tracker.count kind
  let ceiling := world.limits.ceiling kind
  let (delivered, world) := world.offerWith office kind fun gate => gate.tick kind ceiling
  world.note (.ticked kind count ceiling delivered)

/-- A turn of a capacity manager. -/
def turnCapacity (kind : WorkKind) (stage : CapacityManager.Stage) (signal : Signal) : World :=
  let input : CapacityManager.Input := match signal with
    | .began => .began world.now
    | .cancelled => .cancelled
    | _ => .ticked world.now
  match CapacityManager.step world.limits.capacityInterval stage input with
  | none => world
  | some (stage, offers) =>
    let world := if offers then world.tick task.office kind else world
    let waiting := world.beginWait number (.capacity kind stage)
    match stage with
    | .waiting due =>
      if world.isCancelled task.scope then waiting.signalAtOnce number .cancelled
      else waiting.signalAfter number (due - world.now) .expired
    | .stopped => world.finish number none
    | .idle => world

end Capacity

/-! ## The project manager -/

section Projects

variable (world : World) (number : Nat) (task : Task)

/-- The two loops of a project. -/
def loopsOf (project : ProjectId) : List Body :=
  [WorkKind.worker, .job].map fun kind =>
    .consumer ⟨kind, project, none, .idle, none⟩

/-- Reconcile a registry with a list of projects; the loops run in an office, below a scope. -/
def reconcile (registry : Registry) (office scope : Nat) (wanted : List ProjectId) :
    Reconciliation × World :=
  let result := registry.reconcile world.nextScope wanted
  let world := result.cancelled.foldl cancelScope world
  let world := result.spawned.foldl
    (fun world pair =>
      let (token, world) := world.openScope scope
      world.spawnAll (loopsOf pair.1) office token)
    world
  (result, world)

/-- Begin a stage of the project manager. -/
def enterProjects (projects : ProjectsTask) : World :=
  let waiting := world.beginWait number (.projects projects)
  match projects.stage with
  | .idle => world
  | .waiting due =>
    if world.isCancelled task.scope then waiting.signalAtOnce number .cancelled
    else waiting.signalAfter number (due - world.now) .expired
  | .listing _ =>
    (waiting.note (.called .listProjects)).signalAfter number world.api.listLatency .replied
  | .stopped none => world.finish number none
  | .stopped (some fault) => (world.report task.office (.projectList fault)).finish number none

/-- A turn of the project manager. -/
def turnProjects (projects : ProjectsTask) (signal : Signal) : World :=
  let input : ProjectManager.Input := match signal with
    | .began => .began world.now
    | .cancelled => .cancelled
    | .replied => .listed world.api.listProjects
    | _ => .ticked world.now
  match ProjectManager.step world.limits.projectSyncInterval projects.stage input with
  | none => world
  | some (stage, none) => world.enterProjects number task { projects with stage }
  | some (stage, some wanted) =>
    let (result, world) := world.reconcile projects.registry task.office task.scope wanted
    world.enterProjects number task ⟨stage, result.registry⟩

end Projects

/-! ## The scheduler -/

section Scheduler

variable (world : World) (number : Nat) (task : Task)

/-- The tasks that a scheduler starts, given the versions of the first listings. -/
def componentsOf (versions : List (WorkKind × String)) : List Body :=
  (versions.map fun (kind, version) => .synchronizer ⟨kind, .idle (some version), none⟩) ++
    [.capacity .worker .idle, .capacity .job .idle, .projects ⟨.idle, .empty⟩]

/-- Carry out a command of a scheduler. The versions of the listings taken in so far are kept in
the order of the kinds. -/
def obey (state : World × List (WorkKind × String)) (command : Scheduler.Command) :
    World × List (WorkKind × String) :=
  let (world, versions) := state
  match command with
  | .takeListing kind page =>
    let tracker := (world.office task.office).tracker
    (world.takeEffect task.office task.scope (Synchronizer.takeListing kind tracker page),
      versions ++ [(kind, Synchronizer.versionOf page)])
  | .launch => (world.spawnAll (componentsOf versions) task.office task.scope, versions)
  | .cancelAll => (world.cancelScope task.scope, versions)

/-- List the pods of the kinds that remain and carry out what the scheduler says, up to the stage
in which it has to wait. -/
def syncFrom (remaining : List WorkKind) (world : World) (versions : List (WorkKind × String)) :
    World × Scheduler.Stage :=
  match remaining with
  | [] => (world, .running)
  | kind :: later =>
    let (result, world) := world.listPods kind
    match Scheduler.step (.syncing kind) (.listed result) with
    | none => (world, .running)
    | some (stage, commands) =>
      let (world, versions) := commands.foldl (obey task) (world, versions)
      match stage with
      | .syncing _ => syncFrom later world versions
      | _ => (world, stage)

/-- Begin a stage of a scheduler. -/
def enterScheduler (stage : Scheduler.Stage) : World :=
  let waiting := world.beginWait number (.scheduler stage)
  match stage with
  | .running =>
    if world.isCancelled task.scope then waiting.signalAtOnce number .cancelled
    else if (world.office task.office).fatal.pending.isSome then waiting.signalAtOnce number .woken
    else waiting
  | .draining _ =>
    if world.groupSize task.office = 0 then waiting.signalAtOnce number .expired
    else waiting.signalAfter number (max 1 world.limits.shutdownGrace) .expired
  | .returned outcome => world.finish number (some outcome)
  | _ => world

/-- What a signal means to a scheduler. -/
def schedulerInput (stage : Scheduler.Stage) (signal : Signal) : Option Scheduler.Input :=
  match signal, stage with
  | .cancelled, _ => some .cancelled
  | .expired, _ => some .drained
  | .woken, .running => (world.office task.office).fatal.pending.map .reported
  | .woken, .draining _ => if world.groupSize task.office = 0 then some .drained else none
  | _, _ => none

/-- A turn of a scheduler. -/
def turnScheduler (stage : Scheduler.Stage) (signal : Signal) : World :=
  if signal = .began then
    let (world, stage) := syncFrom task [.worker, .job] world []
    world.enterScheduler number task stage
  else
    match (schedulerInput world task stage signal).bind fun input => Scheduler.step stage input with
    | none => world
    | some (stage, commands) =>
      let (world, _) := commands.foldl (obey task) (world, [])
      world.enterScheduler number task stage

end Scheduler

/-! ## All tasks -/

/-- A turn of a task. -/
def turn (world : World) (number : Nat) (task : Task) (signal : Signal) : World :=
  match task.body with
  | .consumer consumer => world.turnConsumer number task consumer signal
  | .synchronizer synchronizer => world.turnSynchronizer number task synchronizer signal
  | .deletion pod stage => world.turnDeletion number task pod stage signal
  | .capacity kind stage => world.turnCapacity number task kind stage signal
  | .projects projects => world.turnProjects number task projects signal
  | .scheduler stage => world.turnScheduler number task stage signal

/-- Serve a signal, unless it is stale. -/
def serve (world : World) (wake : Wake) : World :=
  match world.tasks.get? wake.task with
  | none => world
  | some task => if task.serial = wake.serial then world.turn wake.task task wake.signal else world

/-! ## Time -/

/-- How many turns may follow each other at one instant before a simulation gives up on a world
that does not come to rest. -/
def patience : Nat := 10000000

/-- Serve the signals until none is left, for a number of turns at most. -/
def settleWithin : Nat → World → World
  | 0, world => world
  | turns + 1, world =>
    match world.signals with
    | [] => world
    | wake :: signals => settleWithin turns ({ world with signals }.serve wake)

/-- Serve the signals until none is left. -/
def settle (world : World) : World := settleWithin patience world

/-- The time of the next timer. -/
def nextDue? (world : World) : Option Nat := (world.timers.map (·.due)).min?

/-- Let the clock move to a time and the timers that are due by then go off. -/
def moveTo (world : World) (time : Nat) : World :=
  let due := world.timers.filter fun timer => timer.due ≤ time
  { world with
    now := time
    timers := world.timers.filter fun timer => !(timer.due ≤ time : Bool)
    signals := world.signals ++ due.map (·.wake) }

/-- Let things happen up to a time, at a number of instants at most. -/
def advanceWithin : Nat → Nat → World → World
  | 0, time, world => world.moveTo time
  | instants + 1, time, world =>
    match world.nextDue? with
    | some due =>
      if due ≤ time then advanceWithin instants time (world.moveTo due).settle
      else world.moveTo time
    | none => world.moveTo time

/-- Let an amount of time pass. Every instant at which something happens lies within it, so there
are no more of them than milliseconds, and one for what is due already. -/
def advance (world : World) (amount : Nat) : World :=
  advanceWithin (amount + 1) (world.now + amount) world

end Turnstile.Simulation.World
