import Turnstile.Simulation.Turns

/-!
# Scenarios

A scenario is a world that is driven from outside: requests change its services, start and cancel
components, and let time pass. After each request everything runs until nothing can go on without
time passing, and then a report is taken.
-/

set_option autoImplicit false

namespace Turnstile.Simulation

/-- What can be told to fail or to behave in some other way. -/
inductive Switch where
  | failsGet
  | failsStarts
  | failsProjects
  | createsPods
  | failsList
  | failsWatch
  | failsDelete
  | keepsDeleted
  | hidesVersion
  | isUnavailable
deriving DecidableEq, Repr

/-- A request to a scenario. -/
inductive Request where
  | setEvent (event : Event)
  | deleteEvent (id : String)
  | setProjects (projects : List ProjectId)
  | setLatency (get start list : Nat)
  | turnOn (switch : Switch) (isOn : Bool)
  | put (kind : WorkKind) (pod : Pod)
  | remove (kind : WorkKind) (pod : PodName) (isSilent : Bool)
  | tell (kind : WorkKind) (item : WatchItem)
  | endWatches (kind : WorkKind)
  | publish (queue body : String)
  | interrupt (queue : String)
  | closeBroker
  | advance (amount : Nat)
  | offer (kind : WorkKind)
  | cancel
  | cancelOne (name : String)
  | startSynchronizer (kind : WorkKind) (skipsListing : Bool)
  | startCapacity (kind : WorkKind)
  | startConsumer (kind : WorkKind) (project : ProjectId) (script : Option (List Opening))
  | startProjects
  | reconcile (projects : List ProjectId)
  | syncProjects
  | startScheduler

/-- What a request is answered. -/
inductive Reply where
  | silent
  | flag (value : Bool)
  | notRunning
  | substrateFault (fault : SubstrateFault)
  | apiFault (fault : ApiFault)
  | reconciled (stats : ReconcileStats) (projects : List ProjectId)

/-- A world with what is kept to report about it. -/
structure Scenario where
  world : World
  /-- The registry of the reconciliations that are asked for. -/
  registry : Registry
  /-- The queues to report about. -/
  queues : List String
  /-- The pods that have ever been put in by request. -/
  placed : List PodName
  /-- The office to report about. -/
  office : Nat

namespace Scenario

/-- A scenario at its start. -/
def fresh (limits : Settings.Limits) : Scenario :=
  ⟨.fresh limits, .empty, [], [], sharedOffice⟩

/-- Report about more queues. -/
def seeQueues (scenario : Scenario) (names : List String) : Scenario :=
  { scenario with
    queues := names.foldl
      (fun queues name => if name ∈ queues then queues else queues ++ [name]) scenario.queues }

/-- Report about the queues of some projects. -/
def seeProjects (scenario : Scenario) (projects : List ProjectId) : Scenario :=
  scenario.seeQueues (projects.flatMap fun project =>
    [WorkKind.worker, .job].map fun kind => kind.queueName project.text)

/-- Change the world. -/
def withWorld (scenario : Scenario) (change : World → World) : Scenario :=
  { scenario with world := change scenario.world }

/-- Start a component in a scope of its own below the root. -/
def startComponent (scenario : Scenario) (name : String) (office scope : Nat) (body : Body) :
    Scenario :=
  scenario.withWorld fun world =>
    let component : Component := ⟨world.nextTask, scope⟩
    { world.spawn body office scope false with
      components := world.components.set name component }

/-- Start a component of the shared office. -/
def startShared (scenario : Scenario) (name : String) (body : Body) : Scenario :=
  let (scope, world) := scenario.world.openScope rootScope
  { scenario with world }.startComponent name sharedOffice scope body

/-- Turn a switch. -/
def turnOn (world : World) (isOn : Bool) : Switch → World
  | .failsGet => { world with api := { world.api with failsGet := isOn } }
  | .failsStarts => { world with api := { world.api with failsStarts := isOn } }
  | .failsProjects => { world with api := { world.api with failsProjects := isOn } }
  | .createsPods => { world with api := { world.api with createsPods := isOn } }
  | .failsList => { world with substrate := { world.substrate with failsList := isOn } }
  | .failsWatch => { world with substrate := { world.substrate with failsWatch := isOn } }
  | .failsDelete => { world with substrate := { world.substrate with failsDelete := isOn } }
  | .keepsDeleted => { world with substrate := { world.substrate with keepsDeleted := isOn } }
  | .hidesVersion => { world with substrate := { world.substrate with hidesVersion := isOn } }
  | .isUnavailable => world.setExchange (world.exchange.setUnavailable isOn)

/-- Reconcile the registry of the scenario with a list of projects. -/
def reconcile (scenario : Scenario) (projects : List ProjectId) : Reply × Scenario :=
  let (result, world) :=
    scenario.world.reconcile scenario.registry sharedOffice rootScope projects
  (.reconciled result.stats result.registry.projects,
    { scenario with world, registry := result.registry })

/-- Start a synchronizer: the pods are listed first, and it does not start if that fails. -/
def startSynchronizer (scenario : Scenario) (kind : WorkKind) : Reply × Scenario :=
  let (scope, world) := scenario.world.openScope rootScope
  let (result, world) := world.listPods kind
  match result with
  | .error fault => (.substrateFault fault, { scenario with world })
  | .ok page =>
    let tracker := (world.office sharedOffice).tracker
    let world := world.takeEffect sharedOffice scope (Synchronizer.takeListing kind tracker page)
    let stage := Synchronizer.Stage.idle (some (Synchronizer.versionOf page))
    (.silent, { scenario with world }.startComponent s!"sync {kind.text}" sharedOffice scope
      (.synchronizer ⟨kind, stage, none⟩))

/-- Start a scheduler in an office of its own, which is reported about from now on. -/
def startScheduler (scenario : Scenario) : Scenario :=
  let (above, world) := scenario.world.openScope rootScope
  let (scope, world) := world.openScope above
  let office := world.nextOffice
  let world := { world.setOffice office .fresh with nextOffice := office + 1 }
  let component : Component := ⟨world.nextTask, above⟩
  let world := { world.spawn (.scheduler .idle) office scope false with
    components := world.components.set "scheduler" component }
  { scenario with world, office }

/-- Carry out a request, up to what then goes on by itself. -/
def carryOut (scenario : Scenario) : Request → Reply × Scenario
  | .setEvent event =>
    (.silent, scenario.withWorld fun world =>
      { world with api := { world.api with events := world.api.events.set event.id.text event } })
  | .deleteEvent id =>
    (.silent, scenario.withWorld fun world =>
      { world with api := { world.api with events := world.api.events.erase id } })
  | .setProjects projects =>
    (.silent, (scenario.seeProjects projects).withWorld fun world =>
      { world with api := { world.api with projects } })
  | .setLatency get start list =>
    (.silent, scenario.withWorld fun world =>
      { world with
        api := { world.api with getLatency := get, startLatency := start, listLatency := list } })
  | .turnOn switch isOn => (.silent, scenario.withWorld fun world => turnOn world isOn switch)
  | .put kind pod =>
    (.silent, { scenario with placed := scenario.placed ++ [pod.name] }.withWorld fun world =>
      world.setSubstrate (world.substrate.put kind pod))
  | .remove kind pod isSilent =>
    let (wasThere, substrate) := scenario.world.substrate.remove kind pod isSilent
    (.flag wasThere, scenario.withWorld fun world => world.setSubstrate substrate)
  | .tell kind item =>
    (.silent, scenario.withWorld fun world =>
      world.setSubstrate (world.substrate.tell kind item))
  | .endWatches kind =>
    (.silent, scenario.withWorld fun world =>
      world.setSubstrate (world.substrate.endWatches kind))
  | .publish queue body =>
    (.silent, (scenario.seeQueues [queue]).withWorld fun world =>
      world.setExchange (world.exchange.publish queue body))
  | .interrupt queue =>
    (.silent, scenario.withWorld fun world => world.setExchange (world.exchange.interrupt queue))
  | .closeBroker =>
    (.silent, scenario.withWorld fun world => world.setExchange world.exchange.close)
  | .advance amount => (.silent, scenario.withWorld fun world => world.advance amount)
  | .offer kind =>
    let (delivered, world) := scenario.world.offerWith sharedOffice kind fun gate => gate.offer kind
    (.flag delivered, { scenario with world })
  | .cancel => (.silent, scenario.withWorld fun world => world.cancelScope rootScope)
  | .cancelOne name =>
    match scenario.world.components.get? name with
    | none => (.notRunning, scenario)
    | some component =>
      (.silent, scenario.withWorld fun world => world.cancelScope component.scope)
  | .startSynchronizer kind true =>
    (.silent, scenario.startShared s!"sync {kind.text}" (.synchronizer ⟨kind, .idle none, none⟩))
  | .startSynchronizer kind false => scenario.startSynchronizer kind
  | .startCapacity kind =>
    (.silent, scenario.startShared s!"capacity {kind.text}" (.capacity kind .idle))
  | .startConsumer kind project script =>
    (.silent, (scenario.seeProjects [project]).startShared s!"consumer {kind.text} {project.text}"
      (.consumer ⟨kind, project, script.map .ofOpenings, .idle, none⟩))
  | .startProjects => (.silent, scenario.startShared "projects" (.projects ⟨.idle, .empty⟩))
  | .reconcile projects => (scenario.seeProjects projects).reconcile projects
  | .syncProjects =>
    let scenario := scenario.withWorld fun world =>
      (world.note (.called .listProjects)).settle.advance world.api.listLatency
    match scenario.world.api.listProjects with
    | .error fault => (.apiFault fault, scenario)
    | .ok projects => scenario.reconcile projects
  | .startScheduler => (.silent, scenario.startScheduler)

/-- What is reported after a request. -/
structure Report where
  now : Nat
  /-- What was noted since the last report, earliest first. -/
  log : List (Nat × String)
  reply : Reply
  tracker : Tracker
  /-- The pods to report about, in order. -/
  pods : List PodName
  broker : Broker
  queues : List String
  /-- How many wait in the shared lines, workers first. -/
  waiting : Nat × Nat
  tasks : Nat
  running : List String
  finished : List Finish
  fatal : Option FatalFault

/-- The pods to report about: those put in by request and those that starts have put in. -/
def podNames (scenario : Scenario) : List PodName :=
  let substrate := scenario.world.substrate
  ascending (scenario.placed ++ substrate.workers.keys ++ substrate.jobs.keys)

/-- Carry out a request, let everything run, and take a report. -/
def handle (scenario : Scenario) (request : Request) : Report × Scenario :=
  let (reply, scenario) := scenario.carryOut request
  let scenario := scenario.withWorld World.settle
  let scenario := { scenario with placed := scenario.podNames }
  let world := scenario.world
  let shared := world.office sharedOffice
  let (fatal, slot) := shared.fatal.take
  ({ now := world.now
     log := world.log.reverse.filterMap fun (time, notice) =>
       notice.text?.map fun text => (time, text)
     reply
     tracker := (world.office scenario.office).tracker
     pods := scenario.placed
     broker := world.exchange.broker
     queues := scenario.queues
     waiting := (shared.workers.waiting, shared.jobs.waiting)
     tasks := world.groupSize sharedOffice
     running := ascending world.components.keys
     finished := world.finished
     fatal },
    { scenario with
      world := { world.setOffice sharedOffice { shared with fatal := slot } with
        log := [], finished := [] } })

end Scenario

end Turnstile.Simulation
