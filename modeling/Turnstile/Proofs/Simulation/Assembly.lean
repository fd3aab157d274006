import Mathlib.Data.List.Induction
import Turnstile.Proofs.Simulation.Scopes
import Turnstile.Proofs.Simulation.Starts
import Turnstile.Proofs.Tracker.Reports

/-!
# A scheduler and all that it starts

An **assembly** is a scheduler with its tracker, the slot for fatal faults and all tasks of the run:
the components that it starts, the loops that its project manager starts, and the deletions. What
the tasks are told is up to the services and to time, and the order in which they have their turns
is free; only the scheduler itself takes nothing but what is there, a shut-down or the fault in the
slot. So a run is given by any list of **actions** (`Assembly.run`), and those that do not fit are
passed over.

The **trace** holds the calls of the tasks, the first listings, the launch of the components, the
faults that were reported, and the shut-down. A task that is cancelled may leave out the call of the
stage to which it comes; here the call is in the trace all the same, so that there are more calls
than are ever made.

Before the launch there are no tasks but deletions (`Assembly.IsQuiet`). After it both listings are
there, and in the tracker that the components were given (`Assembly.IsLaunched`). The outcome is
what was first: a listing that failed, the shut-down or the first fault that was reported
(`Assembly.start_up_is_gated`). The start-up in the simulation is such a run, with the listings that
the substrate gives (`Assembly.Shows.syncFrom`).
-/

set_option autoImplicit false

namespace Turnstile

/-! ## Moves of the scheduler -/

namespace Scheduler

/-- The moves of a scheduler: a stage, an input that it takes, the stage that it leads to, and what
is to be done. -/
inductive Move : Stage → Input → Stage → List Command → Prop where
  | began : Move .idle .began (.syncing .worker) []
  | workers (page : PodPage) :
    Move (.syncing .worker) (.listed (.ok page)) (.syncing .job) [.takeListing .worker page]
  | jobs (page : PodPage) :
    Move (.syncing .job) (.listed (.ok page)) .running [.takeListing .job page, .launch]
  | unlisted (kind : WorkKind) (cause : SubstrateFault) :
    Move (.syncing kind) (.listed (.error cause)) (.draining (.error (.initialSync kind cause)))
      [.cancelAll]
  | cancelled : Move .running .cancelled (.draining (.ok ())) [.cancelAll]
  | reported (fault : FatalFault) :
    Move .running (.reported fault) (.draining (.error fault)) [.cancelAll]
  | drained (outcome : Outcome) : Move (.draining outcome) .drained (.returned outcome) []

theorem Move.of_step {stage later : Stage} {input : Input} {commands : List Command}
    (stepped : step stage input = some (later, commands)) : Move stage input later commands := by
  unfold step at stepped
  split at stepped
  case h_2 kind page =>
    cases kind with
    | worker =>
      cases stepped
      exact .workers page
    | job =>
      cases stepped
      exact .jobs page
  all_goals
    cases stepped
    try constructor

/-- How the run has come out, once that is settled. -/
def Stage.outcome? : Stage → Option Outcome
  | draining outcome => some outcome
  | returned outcome => some outcome
  | _ => none

end Scheduler

namespace Simulation

/-! ## Turns of tasks -/

namespace Assembly

/-- What a task asks of the services, or does at the gate. -/
inductive Call where
  | list (kind : WorkKind)
  | watch (kind : WorkKind) (version : String)
  | delete (pod : PodName)
  | listProjects
  /-- A call of a consumer loop. -/
  | consume (kind : WorkKind) (project : ProjectId) (call : Consumer.Call Reader Parcel)
  /-- An admission is offered if fewer pods are counted than the ceiling allows. -/
  | tick (kind : WorkKind)

/-- Whether the call has to wait for the first listings. Only finished pods may be deleted
before. -/
def Call.isGated : Call → Bool
  | delete _ => false
  | _ => true

/-- What a task is told. -/
inductive TaskInput where
  | consumer (input : Consumer.Input Reader Parcel)
  | synchronizer (input : Synchronizer.Input)
  | deletion (input : Deletion.Input)
  | capacity (input : CapacityManager.Input)
  /-- The tokens of new loops are numbered from `next` on. -/
  | projects (next : Nat) (input : ProjectManager.Input)

/-- What comes of a turn of a task. -/
structure Turn where
  body : Body
  tracker : Tracker
  spawned : List Body
  /-- The tick that the turn was, if it was one. -/
  tick : Option WorkKind

end Assembly

open Assembly

namespace Body

/-- The call that a task makes on coming to its stage. -/
def call? : Body → Option Call
  | consumer task => task.stage.call?.map (.consume task.kind task.project)
  | synchronizer ⟨kind, .listing, _⟩ => some (.list kind)
  | synchronizer ⟨kind, .opening version, _⟩ => some (.watch kind version)
  | deletion pod .deleting => some (.delete pod)
  | projects ⟨.listing _, _⟩ => some .listProjects
  | _ => none

/-- The fault that a task reports on coming to its stage. -/
def fault? : Body → Option FatalFault
  | consumer ⟨kind, project, _, .exited (some fault), _⟩ =>
    some (.queueConnect (kind.queueName project.text) fault)
  | projects ⟨.stopped (some fault), _⟩ => some (.projectList fault)
  | _ => none

/-- Whether the task is the deletion of a pod. -/
def isDeletion : Body → Bool
  | deletion _ _ => true
  | _ => false

end Body

/-- The turn of a task that is told something; none if it does not fit. -/
def Body.take? (limits : Settings.Limits) (tracker : Tracker) : Body → TaskInput → Option Turn
  | .consumer task, .consumer input =>
    (task.stage.next? input).map fun stage => ⟨.consumer { task with stage }, tracker, [], none⟩
  | .synchronizer task, .synchronizer input =>
    (Synchronizer.step task.kind tracker task.stage input).map fun (stage, effect) =>
      ⟨.synchronizer { task with stage }, effect.1, effect.2.map (.deletion · .idle), none⟩
  | .deletion pod stage, .deletion input =>
    (stage.next? input).map fun stage => ⟨.deletion pod stage, tracker, [], none⟩
  | .capacity kind stage, .capacity input =>
    (CapacityManager.step limits.capacityInterval stage input).map fun (stage, offers) =>
      ⟨.capacity kind stage, tracker, [], if offers then some kind else none⟩
  | .projects task, .projects next input =>
    (ProjectManager.step limits.projectSyncInterval task.stage input).map fun (stage, wanted) =>
      match wanted with
      | none => ⟨.projects { task with stage }, tracker, [], none⟩
      | some wanted =>
        let result := task.registry.reconcile next wanted
        ⟨.projects ⟨stage, result.registry⟩, tracker,
          result.spawned.flatMap fun pair => World.loopsOf pair.1, none⟩
  | _, _ => none

/-! ## Assemblies -/

namespace Assembly

/-- What can be seen of an assembly. -/
inductive Occurrence where
  | called (call : Call)
  /-- A first listing has come to an end. -/
  | listed (kind : WorkKind) (result : Except SubstrateFault PodPage)
  /-- The components are started, with what the tracker holds at that moment. -/
  | launched (tracker : Tracker)
  | reported (fault : FatalFault)
  | shutDown

namespace Occurrence

/-- The first listing that has come to an end. -/
def listing? : Occurrence → Option (WorkKind × Except SubstrateFault PodPage)
  | listed kind result => some (kind, result)
  | _ => none

/-- The fault that is reported. -/
def fault? : Occurrence → Option FatalFault
  | reported fault => some fault
  | _ => none

/-- A call that has to wait for the first listings. -/
def isGated : Occurrence → Bool
  | called call => call.isGated
  | _ => false

end Occurrence

/-- What has been seen, earliest first. -/
abbrev Trace := List Occurrence

namespace Trace

/-- The first listings. -/
def listings (trace : Trace) : List (WorkKind × Except SubstrateFault PodPage) :=
  trace.filterMap Occurrence.listing?

/-- The faults that were reported. -/
def faults (trace : Trace) : List FatalFault := trace.filterMap Occurrence.fault?

/-- Whether a call was made that has to wait for the first listings. -/
def hasGated (trace : Trace) : Bool := trace.any Occurrence.isGated

variable (trace more : Trace)

@[simp] theorem listings_append : listings (trace ++ more) = listings trace ++ listings more :=
  List.filterMap_append

@[simp] theorem faults_append : faults (trace ++ more) = faults trace ++ faults more :=
  List.filterMap_append

@[simp] theorem hasGated_append : hasGated (trace ++ more) = (hasGated trace || hasGated more) :=
  List.any_append

end Trace

/-- What is seen of a turn. -/
def Turn.seen (turn : Turn) : Trace :=
  (turn.tick.map fun kind => .called (.tick kind)).toList ++ (turn.body.call?.map .called).toList ++
    (turn.body.fault?.map .reported).toList

end Assembly

/-- A scheduler and all that it has started. -/
structure Assembly where
  stage : Scheduler.Stage
  isShutDown : Bool
  tracker : Tracker
  fatal : FatalSlot
  /-- The versions of the first listings. -/
  versions : List (WorkKind × String)
  tasks : List Body
  trace : Trace

namespace Assembly

/-- What can happen. -/
inductive Action where
  | shutDown
  /-- The scheduler takes an input. -/
  | schedule (input : Scheduler.Input)
  /-- A task has a turn. -/
  | turn (number : Nat) (input : TaskInput)

/-- An assembly at its start. -/
def start : Assembly := ⟨.idle, false, .fresh, .empty, [], [], []⟩

/-- Whether there is such an input for the scheduler. -/
def admits (assembly : Assembly) : Scheduler.Input → Bool
  | .cancelled => assembly.isShutDown
  | .reported fault => assembly.fatal.pending = some fault
  | _ => true

/-- What is seen when the scheduler takes an input. -/
def seen : Scheduler.Stage → Scheduler.Input → Trace
  | .syncing kind, .listed result => [.listed kind result]
  | _, _ => []

/-- Take an input out of where it comes from. -/
def takeOut (assembly : Assembly) : Scheduler.Input → Assembly
  | .reported _ => { assembly with fatal := assembly.fatal.take.2 }
  | _ => assembly

/-- Carry out a command of the scheduler. The tasks learn at any time that they are cancelled. -/
def obey (assembly : Assembly) : Scheduler.Command → Assembly
  | .takeListing kind page =>
    let effect := Synchronizer.takeListing kind assembly.tracker page
    { assembly with
      tracker := effect.1
      tasks := assembly.tasks ++ effect.2.map (.deletion · .idle)
      versions := assembly.versions ++ [(kind, Synchronizer.versionOf page)] }
  | .launch =>
    { assembly with
      tasks := assembly.tasks ++ World.componentsOf assembly.versions
      trace := assembly.trace ++ [.launched assembly.tracker] }
  | .cancelAll => assembly

/-- The assembly after the scheduler has taken an input. -/
def schedule (assembly : Assembly) (input : Scheduler.Input) : Assembly :=
  match Scheduler.step assembly.stage input with
  | some (stage, commands) =>
    if assembly.admits input then
      let seen := seen assembly.stage input
      commands.foldl obey { assembly.takeOut input with stage, trace := assembly.trace ++ seen }
    else assembly
  | none => assembly

/-- The assembly after a turn of a task. -/
def takeTurn (assembly : Assembly) (number : Nat) (turn : Turn) : Assembly :=
  { assembly with
    tracker := turn.tracker
    fatal := match turn.body.fault? with
      | some fault => assembly.fatal.report fault
      | none => assembly.fatal
    tasks := assembly.tasks.set number turn.body ++ turn.spawned
    trace := assembly.trace ++ turn.seen }

/-- The assembly after an action. -/
def act (limits : Settings.Limits) (assembly : Assembly) : Action → Assembly
  | .shutDown => { assembly with isShutDown := true, trace := assembly.trace ++ [.shutDown] }
  | .schedule input => assembly.schedule input
  | .turn number input =>
    match assembly.tasks[number]?.bind fun body => body.take? limits assembly.tracker input with
    | some turn => assembly.takeTurn number turn
    | none => assembly

/-- The assembly after some actions. -/
def run (limits : Settings.Limits) (actions : List Action) : Assembly :=
  actions.foldl (act limits) start

/-! ## Before the launch and after it -/

/-- The tracker counts, of a kind, the pods of a listing that use capacity. -/
def Counts (tracker : Tracker) (kind : WorkKind) (page : PodPage) : Prop :=
  ∀ name, name ∈ tracker.counted kind ↔ ∃ pod ∈ page.pods, pod.name = name ∧ pod.usesCapacity

/-- There are no tasks but deletions, and nothing that has to wait for the listings was done. -/
structure IsQuiet (assembly : Assembly) : Prop where
  tasks : ∀ body ∈ assembly.tasks, body.isDeletion
  ungated : assembly.trace.hasGated = false
  faults : assembly.trace.faults = []
  fatal : assembly.fatal.pending = none

/-- The components were launched after both listings had succeeded, with these in the tracker, and
before that nothing was done that had to wait. -/
structure IsLaunched (trace before : Trace) (tracker : Tracker) (workers jobs : PodPage) :
    Prop where
  split : ∃ after : Trace, trace = before ++ .launched tracker :: after ∧ after.listings = []
  listings : before.listings = [(.worker, .ok workers), (.job, .ok jobs)]
  ungated : before.hasGated = false
  workers : Counts tracker .worker workers
  jobs : Counts tracker .job jobs

/-- The components were launched. -/
def HasLaunched (trace : Trace) : Prop :=
  ∃ before tracker workers jobs, IsLaunched trace before tracker workers jobs

/-- What has settled an outcome. -/
inductive IsSettled (assembly : Assembly) : Scheduler.Outcome → Prop where
  | noWorkers {cause : SubstrateFault} (quiet : assembly.IsQuiet)
    (listings : assembly.trace.listings = [(.worker, .error cause)]) :
    IsSettled assembly (.error (.initialSync .worker cause))
  | noJobs (workers : PodPage) {cause : SubstrateFault} (quiet : assembly.IsQuiet)
    (listings : assembly.trace.listings = [(.worker, .ok workers), (.job, .error cause)]) :
    IsSettled assembly (.error (.initialSync .job cause))
  | shutDown (launched : HasLaunched assembly.trace) (told : .shutDown ∈ assembly.trace) :
    IsSettled assembly (.ok ())
  | reported {fault : FatalFault} (launched : HasLaunched assembly.trace)
    (first : assembly.trace.faults.head? = some fault) : IsSettled assembly (.error fault)

/-- What is known of an assembly whose scheduler is at a stage. -/
def Fits (assembly : Assembly) : Scheduler.Stage → Prop
  | .idle => assembly.IsQuiet ∧ assembly.trace.listings = []
  | .syncing .worker => assembly.IsQuiet ∧ assembly.trace.listings = []
  | .syncing .job => assembly.IsQuiet ∧
    ∃ workers, assembly.trace.listings = [(.worker, .ok workers)] ∧
      Counts assembly.tracker .worker workers
  | .running => HasLaunched assembly.trace ∧
    assembly.fatal.pending = assembly.trace.faults.head?
  | .draining outcome => assembly.IsSettled outcome
  | .returned outcome => assembly.IsSettled outcome

/-- What an assembly keeps. -/
structure IsKept (assembly : Assembly) : Prop where
  fits : assembly.Fits assembly.stage
  told : assembly.isShutDown ↔ .shutDown ∈ assembly.trace

/-- What starts nothing but deletions, and does nothing that has to wait, keeps an assembly
quiet. -/
theorem IsQuiet.more {assembly later : Assembly} (quiet : assembly.IsQuiet) {more : Trace}
    (tasks : ∀ body ∈ later.tasks, body ∈ assembly.tasks ∨ body.isDeletion)
    (trace : later.trace = assembly.trace ++ more) (ungated : more.hasGated = false)
    (faultless : more.faults = []) (fatal : later.fatal = assembly.fatal) : later.IsQuiet where
  tasks body member := (tasks body member).elim (quiet.tasks body) id
  ungated := by rw [trace, Trace.hasGated_append, quiet.ungated, ungated, Bool.or_false]
  faults := by rw [trace, Trace.faults_append, quiet.faults, faultless, List.append_nil]
  fatal := fatal ▸ quiet.fatal

theorem HasLaunched.append {trace : Trace} (launched : HasLaunched trace) {more : Trace}
    (unlisted : more.listings = []) : HasLaunched (trace ++ more) := by
  obtain ⟨before, tracker, workers, jobs, isLaunched⟩ := launched
  obtain ⟨after, rfl, none⟩ := isLaunched.split
  refine ⟨before, tracker, workers, jobs, { isLaunched with split := ⟨after ++ more, ?_, ?_⟩ }⟩
  · exact List.append_assoc ..
  · rw [Trace.listings_append, none, unlisted]
    rfl

/-! ## Turns and shut-downs -/

/-- An assembly goes on from another one without a listing. -/
structure GoesOn (assembly later : Assembly) (more : Trace) : Prop where
  trace : later.trace = assembly.trace ++ more
  unlisted : more.listings = []
  quiet : assembly.IsQuiet → later.IsQuiet ∧ later.tracker = assembly.tracker
  fatal : assembly.fatal.pending = assembly.trace.faults.head? →
    later.fatal.pending = later.trace.faults.head?
  told : later.isShutDown ↔ assembly.isShutDown ∨ .shutDown ∈ more

namespace GoesOn

variable {assembly later : Assembly} {more : Trace}

theorem listings (goesOn : GoesOn assembly later more) :
    later.trace.listings = assembly.trace.listings := by
  rw [goesOn.trace, Trace.listings_append, goesOn.unlisted, List.append_nil]

theorem launched (goesOn : GoesOn assembly later more)
    (launched : HasLaunched assembly.trace) : HasLaunched later.trace := by
  rw [goesOn.trace]
  exact launched.append goesOn.unlisted

theorem isSettled (goesOn : GoesOn assembly later more) {outcome : Scheduler.Outcome}
    (settled : assembly.IsSettled outcome) : later.IsSettled outcome := by
  cases settled with
  | noWorkers quiet listings => exact .noWorkers (goesOn.quiet quiet).1 (goesOn.listings ▸ listings)
  | noJobs workers quiet listings =>
    exact .noJobs workers (goesOn.quiet quiet).1 (goesOn.listings ▸ listings)
  | shutDown launched told =>
    refine .shutDown (goesOn.launched launched) ?_
    rw [goesOn.trace]
    exact List.mem_append_left more told
  | reported launched first =>
    refine .reported (goesOn.launched launched) ?_
    rw [goesOn.trace, Trace.faults_append, List.head?_append, first]
    rfl

theorem isKept (goesOn : GoesOn assembly later more) (kept : assembly.IsKept)
    (same : later.stage = assembly.stage) : later.IsKept where
  fits := by
    have fits := kept.fits
    rw [same]
    match assembly.stage, fits with
    | .idle, ⟨quiet, listings⟩ => exact ⟨(goesOn.quiet quiet).1, goesOn.listings.trans listings⟩
    | .syncing .worker, ⟨quiet, listings⟩ =>
      exact ⟨(goesOn.quiet quiet).1, goesOn.listings.trans listings⟩
    | .syncing .job, ⟨quiet, workers, listings, counts⟩ =>
      obtain ⟨quietThen, same⟩ := goesOn.quiet quiet
      exact ⟨quietThen, workers, goesOn.listings.trans listings, same ▸ counts⟩
    | .running, ⟨launched, pending⟩ => exact ⟨goesOn.launched launched, goesOn.fatal pending⟩
    | .draining outcome, settled => exact goesOn.isSettled settled
    | .returned outcome, settled => exact goesOn.isSettled settled
  told := by
    rw [goesOn.trace, List.mem_append, ← kept.told]
    exact goesOn.told

/-- A shut-down disturbs nothing. -/
theorem shutDown (limits : Settings.Limits) (assembly : Assembly) :
    GoesOn assembly (assembly.act limits .shutDown) [.shutDown] where
  trace := rfl
  unlisted := rfl
  quiet quiet := ⟨quiet.more (fun _ => .inl) rfl rfl rfl rfl, rfl⟩
  fatal pending := by
    rw [act, Trace.faults_append]
    exact pending.trans (congrArg List.head? (List.append_nil _).symm)
  told := iff_of_true rfl (.inr (List.mem_singleton_self _))

end GoesOn

/-- A deletion stays one, starts nothing, and does nothing that has to wait. -/
theorem take?_deletion {limits : Settings.Limits} {tracker : Tracker} {body : Body}
    {input : TaskInput} {turn : Turn} (isDeletion : body.isDeletion)
    (taken : body.take? limits tracker input = some turn) :
    ∃ pod stage, turn = ⟨.deletion pod stage, tracker, [], none⟩ := by
  cases body with
  | deletion pod stage =>
    cases input with
    | deletion input =>
      obtain ⟨later, _, same⟩ := Option.map_eq_some_iff.1 taken
      exact ⟨pod, later, same.symm⟩
    | _ => cases taken
  | _ => cases isDeletion

theorem seen_deletion (pod : PodName) (stage : Deletion.Stage) (tracker : Tracker) :
    Trace.hasGated (Turn.seen ⟨.deletion pod stage, tracker, [], none⟩) = false := by
  cases stage <;> rfl

theorem listings_seen (turn : Turn) : Trace.listings turn.seen = [] := by
  rw [Turn.seen, Trace.listings_append, Trace.listings_append]
  cases turn.tick <;> cases turn.body.call? <;> cases turn.body.fault? <;> rfl

theorem faults_seen (turn : Turn) : Trace.faults turn.seen = turn.body.fault?.toList := by
  rw [Turn.seen, Trace.faults_append, Trace.faults_append]
  cases turn.tick <;> cases turn.body.call? <;> cases turn.body.fault? <;> rfl

/-- No task shuts the scheduler down. -/
theorem shutDown_notMem_seen (turn : Turn) : .shutDown ∉ turn.seen := by
  simp [Turn.seen]

/-- A turn of a task disturbs nothing. -/
theorem GoesOn.takeTurn {limits : Settings.Limits} {assembly : Assembly} {number : Nat}
    {body : Body} {input : TaskInput} {turn : Turn} (found : assembly.tasks[number]? = some body)
    (taken : body.take? limits assembly.tracker input = some turn) :
    GoesOn assembly (assembly.takeTurn number turn) turn.seen where
  trace := rfl
  unlisted := listings_seen turn
  quiet := by
    intro quiet
    obtain ⟨pod, stage, rfl⟩ := take?_deletion (quiet.tasks _ (List.mem_of_getElem? found)) taken
    refine ⟨quiet.more ?_ rfl (seen_deletion pod stage _) (faults_seen _) rfl, rfl⟩
    intro other member
    rcases List.mem_append.1 member with kept | spawned
    · refine (List.mem_or_eq_of_mem_set kept).imp_right ?_
      rintro rfl
      rfl
    · cases spawned
  fatal := by
    intro pending
    rw [Assembly.takeTurn, Trace.faults_append, faults_seen, List.head?_append, ← pending]
    cases turn.body.fault? with
    | none => exact (Option.or_none).symm
    | some fault => rfl
  told := (or_iff_left (shutDown_notMem_seen turn)).symm

/-! ## Inputs of the scheduler -/

theorem counts_takeListing (kind : WorkKind) (tracker : Tracker) (page : PodPage) :
    Counts (Synchronizer.takeListing kind tracker page).1 kind page := by
  intro name
  rw [Synchronizer.takeListing, Tracker.counted_noticeAll]
  exact Tracker.mem_counted_replace

theorem counted_takeListing_of_ne {kind other : WorkKind} (different : other ≠ kind)
    (tracker : Tracker) (page : PodPage) :
    (Synchronizer.takeListing kind tracker page).1.counted other = tracker.counted other := by
  rw [Synchronizer.takeListing, Tracker.counted_noticeAll]
  have apart : other ≠ (Tracker.Report.replace kind page.pods).kind := different
  exact tracker.counted_take_of_ne apart

/-- A listing that succeeds hands on nothing but deletions. -/
theorem isDeletion_of_takeListing {tasks : List Body} {effect : Synchronizer.Effect} {body : Body}
    (member : body ∈ tasks ++ effect.2.map (.deletion · .idle)) :
    body ∈ tasks ∨ body.isDeletion := by
  refine (List.mem_append.1 member).imp_right fun new => ?_
  obtain ⟨pod, _, rfl⟩ := List.mem_map.1 new
  rfl

/-- **An input of the scheduler keeps the assembly.** -/
theorem IsKept.move {assembly : Assembly} (kept : assembly.IsKept) {input : Scheduler.Input}
    {later : Scheduler.Stage} {commands : List Scheduler.Command}
    (move : Scheduler.Move assembly.stage input later commands) (admitted : assembly.admits input) :
    (commands.foldl obey { assembly.takeOut input with
      stage := later, trace := assembly.trace ++ seen assembly.stage input }).IsKept := by
  obtain ⟨stage, isShutDown, tracker, fatal, versions, tasks, trace⟩ := assembly
  obtain ⟨fits, told⟩ := kept
  have still {more : Trace} (silent : .shutDown ∉ more) :
      isShutDown = true ↔ .shutDown ∈ trace ++ more := by
    rw [List.mem_append, or_iff_left silent]
    exact told
  cases move with
  | began =>
    obtain ⟨quiet, unlisted⟩ := fits
    refine ⟨⟨quiet.more (fun _ => .inl) rfl rfl rfl rfl, ?_⟩, still List.not_mem_nil⟩
    exact (Trace.listings_append ..).trans (by rw [unlisted]; rfl)
  | workers page =>
    obtain ⟨quiet, unlisted⟩ := fits
    refine ⟨⟨quiet.more (fun _ => isDeletion_of_takeListing) rfl rfl rfl rfl, page, ?_, ?_⟩,
      still (by simp [seen])⟩
    · exact (Trace.listings_append ..).trans (by rw [unlisted]; rfl)
    · exact counts_takeListing .worker tracker page
  | jobs page =>
    obtain ⟨quiet, workers, listings, counts⟩ := fits
    have silent : Occurrence.shutDown ∉ [.listed .job (.ok page)] := by simp
    refine ⟨⟨?_, ?_⟩, (still silent).trans (by simp [obey, seen])⟩
    · refine ⟨trace ++ [.listed .job (.ok page)], _, workers, page,
        ⟨⟨[], rfl, rfl⟩, ?_, ?_, ?_, ?_⟩⟩
      · exact (Trace.listings_append ..).trans (by rw [listings]; rfl)
      · exact (Trace.hasGated_append ..).trans (by rw [quiet.ungated]; rfl)
      · intro name
        have others := counted_takeListing_of_ne (nofun : WorkKind.worker ≠ .job) tracker page
        exact (Iff.of_eq (congrArg (name ∈ ·) others)).trans (counts name)
      · exact counts_takeListing .job tracker page
    · have none (given : Tracker) :
          Trace.faults (trace ++ [.listed .job (.ok page)] ++ [.launched given]) = [] := by
        have before : trace.faults = [] := quiet.faults
        rw [Trace.faults_append, Trace.faults_append, before]
        rfl
      exact quiet.fatal.trans (congrArg List.head? (none _)).symm
  | unlisted kind cause =>
    refine ⟨?_, still (by simp [seen])⟩
    cases kind with
    | worker =>
      obtain ⟨quiet, unlisted⟩ := fits
      refine .noWorkers (quiet.more (fun _ => .inl) rfl rfl rfl rfl) ?_
      exact (Trace.listings_append ..).trans (by rw [unlisted]; rfl)
    | job =>
      obtain ⟨quiet, workers, listings, _⟩ := fits
      refine .noJobs workers (quiet.more (fun _ => .inl) rfl rfl rfl rfl) ?_
      exact (Trace.listings_append ..).trans (by rw [listings]; rfl)
  | cancelled =>
    obtain ⟨launched, _⟩ := fits
    have silent : Occurrence.shutDown ∉ [] := List.not_mem_nil
    exact ⟨.shutDown (launched.append rfl) ((still silent).1 admitted), still silent⟩
  | reported fault =>
    obtain ⟨launched, pending⟩ := fits
    have taken : fatal.pending = some fault := of_decide_eq_true admitted
    refine ⟨.reported (launched.append rfl) ?_, still List.not_mem_nil⟩
    have first : trace.faults.head? = some fault := pending.symm.trans taken
    exact (congrArg List.head? (congrArg Trace.faults (List.append_nil trace))).trans first
  | drained outcome =>
    have goesOn : GoesOn ⟨.draining outcome, isShutDown, tracker, fatal, versions, tasks, trace⟩
        ⟨.returned outcome, isShutDown, tracker, fatal, versions, tasks, trace ++ []⟩ [] := by
      refine ⟨rfl, rfl, fun quiet => ⟨quiet.more (fun _ => .inl) rfl rfl rfl rfl, rfl⟩, ?_,
        (or_iff_left List.not_mem_nil).symm⟩
      rw [List.append_nil]
      exact id
    exact ⟨goesOn.isSettled fits, still List.not_mem_nil⟩

/-! ## Runs -/

variable {limits : Settings.Limits} {assembly : Assembly}

/-- **An action keeps the assembly.** -/
theorem IsKept.act (kept : assembly.IsKept) (limits : Settings.Limits) (action : Action) :
    (assembly.act limits action).IsKept := by
  cases action with
  | shutDown => exact (GoesOn.shutDown limits assembly).isKept kept rfl
  | schedule input =>
    rw [Assembly.act, schedule]
    split
    case h_1 later commands stepped =>
      split
      case isTrue admitted => exact kept.move (.of_step stepped) admitted
      case isFalse => exact kept
    case h_2 => exact kept
  | turn number input =>
    rw [Assembly.act]
    split
    case h_1 turn taken =>
      obtain ⟨body, found, taken⟩ := Option.bind_eq_some_iff.1 taken
      exact (GoesOn.takeTurn found taken).isKept kept rfl
    case h_2 => exact kept

theorem run_snoc (limits : Settings.Limits) (actions : List Action) (action : Action) :
    run limits (actions ++ [action]) = (run limits actions).act limits action := by
  rw [run, List.foldl_append]
  rfl

theorem isKept_start : start.IsKept where
  fits := by
    refine ⟨⟨?_, rfl, rfl, rfl⟩, rfl⟩
    intro body member
    cases member
  told := iff_of_false nofun List.not_mem_nil

theorem isKept_run (limits : Settings.Limits) (actions : List Action) :
    (run limits actions).IsKept := by
  induction actions using List.reverseRecOn with
  | nil => exact isKept_start
  | append_singleton earlier action ih =>
    rw [run_snoc]
    exact ih.act limits action

theorem stage_obeyAll (assembly : Assembly) (commands : List Scheduler.Command) :
    (commands.foldl obey assembly).stage = assembly.stage := by
  induction commands generalizing assembly with
  | nil => rfl
  | cons command commands ih =>
    refine (ih (assembly.obey command)).trans ?_
    cases command <;> rfl

/-- What the scheduler takes brings it to its next stage. -/
theorem stage_schedule {input : Scheduler.Input} {later : Scheduler.Stage}
    {commands : List Scheduler.Command}
    (stepped : Scheduler.step assembly.stage input = some (later, commands))
    (admitted : assembly.admits input) :
    (assembly.act limits (.schedule input)).stage = later := by
  simp only [act, schedule, stepped, admitted, if_true, stage_obeyAll]

/-- Once the outcome is settled, the scheduler takes in nothing but that it is done. -/
theorem outcome?_of_step {stage later : Scheduler.Stage} {input : Scheduler.Input}
    {commands : List Scheduler.Command} {outcome : Scheduler.Outcome}
    (stepped : Scheduler.step stage input = some (later, commands))
    (settled : stage.outcome? = some outcome) :
    later = .returned outcome ∧ commands = [] := by
  cases Scheduler.Move.of_step stepped with
  | drained other =>
    cases settled
    exact ⟨rfl, rfl⟩
  | _ => cases settled

/-- Nothing changes an outcome that is settled. -/
theorem outcome?_act {outcome : Scheduler.Outcome}
    (settled : assembly.stage.outcome? = some outcome) (action : Action) :
    (assembly.act limits action).stage.outcome? = some outcome := by
  cases action with
  | shutDown => exact settled
  | schedule input =>
    rw [act, schedule]
    split
    case h_1 later commands stepped =>
      split
      case isTrue =>
        obtain ⟨rfl, rfl⟩ := outcome?_of_step stepped settled
        rfl
      case isFalse => exact settled
    case h_2 => exact settled
  | turn number input =>
    rw [act]
    split
    · exact settled
    · exact settled

theorem outcome?_run {actions : List Action} {outcome : Scheduler.Outcome}
    (settled : (run limits actions).stage.outcome? = some outcome) (more : List Action) :
    (run limits (actions ++ more)).stage.outcome? = some outcome := by
  induction more using List.reverseRecOn with
  | nil => rwa [List.append_nil]
  | append_singleton earlier action ih =>
    rw [← List.append_assoc, run_snoc]
    exact outcome?_act ih action

/-- A scheduler whose outcome is settled returns when the tasks have ended or their time is up. -/
theorem returned_of_outcome? {outcome : Scheduler.Outcome}
    (settled : assembly.stage.outcome? = some outcome) :
    (assembly.act limits (.schedule .drained)).stage = .returned outcome := by
  rw [act, schedule]
  cases stage : assembly.stage with
  | draining other =>
    rw [stage] at settled
    cases settled
    rfl
  | returned other =>
    rw [stage] at settled
    cases settled
    exact stage
  | _ =>
    rw [stage] at settled
    cases settled

/-- A call that had to wait comes after the launch. -/
theorem HasLaunched.before_gated {trace earlier later : Trace} {call : Call}
    (launched : HasLaunched trace) (split : trace = earlier ++ .called call :: later)
    (gated : call.isGated) :
    ∃ (before : Trace) (tracker : Tracker) (since : Trace) (workers jobs : PodPage),
      earlier = before ++ .launched tracker :: since ∧
      before.listings = [(.worker, .ok workers), (.job, .ok jobs)] ∧
      Counts tracker .worker workers ∧ Counts tracker .job jobs := by
  obtain ⟨before, tracker, workers, jobs, isLaunched⟩ := launched
  obtain ⟨after, launch, _⟩ := isLaunched.split
  rw [launch] at split
  rcases List.append_eq_append_iff.1 split with ⟨since, rfl, rest⟩ | ⟨middle, rfl, rest⟩
  · cases since with
    | nil => cases rest
    | cons first since =>
      obtain ⟨rfl, -⟩ := List.cons.inj rest
      exact ⟨before, tracker, since, workers, jobs, rfl, isLaunched.listings, isLaunched.workers,
        isLaunched.jobs⟩
  · cases middle with
    | nil => cases rest
    | cons first middle =>
      obtain ⟨rfl, -⟩ := List.cons.inj rest
      have ungated := isLaunched.ungated
      simp [Trace.hasGated, Occurrence.isGated, gated] at ungated

theorem HasLaunched.listings {trace : Trace} (launched : HasLaunched trace) :
    ∃ workers jobs, trace.listings = [(.worker, .ok workers), (.job, .ok jobs)] := by
  obtain ⟨before, tracker, workers, jobs, isLaunched⟩ := launched
  obtain ⟨after, rfl, none⟩ := isLaunched.split
  refine ⟨workers, jobs, ?_⟩
  rw [Trace.listings_append, isLaunched.listings]
  exact congrArg _ none

/-- An outcome that is settled was settled in one of four ways. -/
theorem IsKept.isSettled (kept : assembly.IsKept) {outcome : Scheduler.Outcome}
    (settled : assembly.stage.outcome? = some outcome) : assembly.IsSettled outcome := by
  have fits := kept.fits
  cases stage : assembly.stage with
  | draining other =>
    rw [stage] at settled fits
    cases settled
    exact fits
  | returned other =>
    rw [stage] at settled fits
    cases settled
    exact fits
  | _ =>
    rw [stage] at settled
    cases settled

/-- The components are launched, or nothing is done that has to wait and no listing has failed, or a
listing has. -/
theorem IsKept.cases (kept : assembly.IsKept) :
    HasLaunched assembly.trace ∨
    (assembly.IsQuiet ∧ ∀ kind cause, (kind, .error cause) ∉ assembly.trace.listings) ∨
    ∃ outcome, assembly.stage.outcome? = some outcome ∧ assembly.IsSettled outcome := by
  have fits := kept.fits
  generalize assembly.stage = stage at fits
  match stage, fits with
  | .idle, ⟨quiet, listings⟩ => exact .inr (.inl ⟨quiet, by simp [listings]⟩)
  | .syncing .worker, ⟨quiet, listings⟩ => exact .inr (.inl ⟨quiet, by simp [listings]⟩)
  | .syncing .job, ⟨quiet, workers, listings, _⟩ =>
    exact .inr (.inl ⟨quiet, by simp [listings]⟩)
  | .running, ⟨launched, _⟩ => exact .inl launched
  | .draining outcome, settled => exact .inr (.inr ⟨outcome, rfl, settled⟩)
  | .returned outcome, settled => exact .inr (.inr ⟨outcome, rfl, settled⟩)

/-- Where nothing was launched nothing was called that had to wait. -/
theorem HasLaunched.of_gated (kept : assembly.IsKept) {earlier later : Trace} {call : Call}
    (split : assembly.trace = earlier ++ .called call :: later) (gated : call.isGated) :
    HasLaunched assembly.trace := by
  have loud : ¬assembly.IsQuiet := by
    intro quiet
    have ungated := quiet.ungated
    simp [split, Trace.hasGated, Occurrence.isGated, gated] at ungated
  rcases kept.cases with launched | ⟨quiet, _⟩ | ⟨outcome, _, settled⟩
  · exact launched
  · exact absurd quiet loud
  · cases settled with
    | noWorkers quiet => exact absurd quiet loud
    | noJobs _ quiet => exact absurd quiet loud
    | shutDown launched => exact launched
    | reported launched => exact launched

/-- A listing that has failed has settled the outcome. -/
theorem IsKept.of_failed (kept : assembly.IsKept) {kind : WorkKind} {cause : SubstrateFault}
    (failed : (kind, .error cause) ∈ assembly.trace.listings) :
    assembly.IsQuiet ∧ assembly.stage.outcome? = some (.error (.initialSync kind cause)) ∧
      (assembly.trace.listings = [(.worker, .error cause)] ∨
        ∃ workers, assembly.trace.listings = [(.worker, .ok workers), (.job, .error cause)]) := by
  have notLaunched : ¬HasLaunched assembly.trace := by
    intro launched
    obtain ⟨workers, jobs, listings⟩ := launched.listings
    simp [listings] at failed
  rcases kept.cases with launched | ⟨_, succeeded⟩ | ⟨outcome, same, settled⟩
  · exact absurd launched notLaunched
  · exact absurd failed (succeeded kind cause)
  · cases settled with
    | noWorkers quiet listings =>
      obtain ⟨rfl, rfl⟩ : kind = .worker ∧ cause = _ := by simpa [listings] using failed
      exact ⟨quiet, same, .inl listings⟩
    | noJobs workers quiet listings =>
      obtain ⟨rfl, rfl⟩ : kind = .job ∧ cause = _ := by simpa [listings] using failed
      exact ⟨quiet, same, .inr ⟨workers, listings⟩⟩
    | shutDown launched => exact absurd launched notLaunched
    | reported launched => exact absurd launched notLaunched

/-- **Nothing starts before the listings are in, and the first to end a run has the say.** Whatever
happens to a scheduler, its services and its tasks:

* every call but that for a deletion comes after the launch, and before the launch both listings
  succeeded, the workers' first; the tracker at the launch counts what they show;
* a listing that fails settles the outcome, and no call is made but for deletions; the scheduler
  takes any such failure while it waits for the listing;
* if the listings succeed, the outcome is `.ok ()` only after a shut-down, and otherwise the fault
  that was reported first; while it runs, the scheduler can take a shut-down and that fault;
* once settled, an outcome stays as it is whatever comes, and it is what the run returns. -/
theorem start_up_is_gated (limits : Settings.Limits) (actions : List Action) :
    let assembly := run limits actions
    let trace := assembly.trace
    (∀ earlier call later, trace = earlier ++ .called call :: later → call.isGated →
      ∃ (before : Trace) (tracker : Tracker) (since : Trace) (workers jobs : PodPage),
        earlier = before ++ .launched tracker :: since ∧
        before.listings = [(.worker, .ok workers), (.job, .ok jobs)] ∧
        Counts tracker .worker workers ∧ Counts tracker .job jobs) ∧
    (∀ kind cause, (kind, .error cause) ∈ trace.listings →
      trace.hasGated = false ∧
      assembly.stage.outcome? = some (.error (.initialSync kind cause)) ∧
      (trace.listings = [(.worker, .error cause)] ∨
        ∃ workers, trace.listings = [(.worker, .ok workers), (.job, .error cause)])) ∧
    (∀ outcome, assembly.stage.outcome? = some outcome →
      (∀ kind cause, (kind, .error cause) ∉ trace.listings) →
      outcome = .ok () ∧ .shutDown ∈ trace ∨
        ∃ fault, outcome = .error fault ∧ trace.faults.head? = some fault) ∧
    (∀ kind cause, assembly.stage = .syncing kind →
      (assembly.act limits (.schedule (.listed (.error cause)))).stage =
        .draining (.error (.initialSync kind cause))) ∧
    (assembly.stage = .running → .shutDown ∈ trace →
      (assembly.act limits (.schedule .cancelled)).stage = .draining (.ok ())) ∧
    (∀ fault, assembly.stage = .running → trace.faults.head? = some fault →
      (assembly.act limits (.schedule (.reported fault))).stage = .draining (.error fault)) ∧
    ∀ outcome more, assembly.stage.outcome? = some outcome →
      (run limits (actions ++ more)).stage.outcome? = some outcome ∧
      ((run limits (actions ++ more)).act limits (.schedule .drained)).stage =
        .returned outcome := by
  intro assembly trace
  have kept : assembly.IsKept := isKept_run limits actions
  refine ⟨?_, ?_, ?_, ?_, ?_, ?_, ?_⟩
  · intro earlier call later split gated
    exact (HasLaunched.of_gated kept split gated).before_gated split gated
  · intro kind cause failed
    obtain ⟨quiet, settled, listings⟩ := kept.of_failed failed
    exact ⟨quiet.ungated, settled, listings⟩
  · intro outcome settled succeeded
    cases kept.isSettled settled with
    | @noWorkers cause quiet listings =>
      have failed : (.worker, .error cause) ∈ assembly.trace.listings := by simp [listings]
      exact absurd failed (succeeded .worker cause)
    | @noJobs workers cause quiet listings =>
      have failed : (.job, .error cause) ∈ assembly.trace.listings := by simp [listings]
      exact absurd failed (succeeded .job cause)
    | shutDown launched told => exact .inl ⟨rfl, told⟩
    | reported launched first => exact .inr ⟨_, rfl, first⟩
  · intro kind cause syncing
    exact stage_schedule (congrArg (Scheduler.step · _) syncing) rfl
  · intro running told
    exact stage_schedule (congrArg (Scheduler.step · _) running) (kept.told.2 told)
  · intro fault running first
    have fits := kept.fits
    rw [running] at fits
    have pending : assembly.admits (.reported fault) := decide_eq_true (fits.2.trans first)
    exact stage_schedule (congrArg (Scheduler.step · _) running) pending
  · intro outcome more settled
    have later := outcome?_run settled more
    exact ⟨later, returned_of_outcome? later⟩

/-- Both listings succeed, the project manager finds a project, and neither of its loops gets a
reader. -/
def twoRefusals : List Action :=
  let empty : PodPage := ⟨[], none, none⟩
  let refused := Consumer.Input.opened (.error (.connect "refused"))
  [.schedule .began, .schedule (.listed (.ok empty)), .schedule (.listed (.ok empty)),
    .turn 4 (.projects 0 (.began 0)), .turn 4 (.projects 0 (.ticked 0)),
    .turn 4 (.projects 0 (.listed (.ok [⟨"p", isValid_p⟩]))),
    .turn 5 (.consumer (.began false)), .turn 6 (.consumer (.began false)),
    .turn 6 (.consumer refused), .turn 5 (.consumer refused),
    .schedule (.reported (.queueConnect (WorkKind.job.queueName "p") (.connect "refused")))]

theorem first_refusal_ends_it :
    (run oneWorkerLimits twoRefusals).trace.faults.length = 2 ∧
      ∃ fault, (run oneWorkerLimits twoRefusals).stage.outcome? = some (.error fault) ∧
        (run oneWorkerLimits twoRefusals).trace.faults.head? = some fault := by
  obtain ⟨-, -, settled, -⟩ := start_up_is_gated oneWorkerLimits twoRefusals
  have listings : (run oneWorkerLimits twoRefusals).trace.listings =
    [(.worker, .ok ⟨[], none, none⟩), (.job, .ok ⟨[], none, none⟩)] := rfl
  refine ⟨rfl, _, rfl, ?_⟩
  rcases settled _ rfl (by simp [listings]) with ⟨none, _⟩ | ⟨fault, same, first⟩
  · cases none
  · cases same
    exact first

end Assembly

/-! ## In the simulation -/

namespace World

variable {world : World} {office scope : Nat}

/-- What the tasks do that an office counts. -/
def bodiesOf (world : World) (office : Nat) : List Body :=
  (world.tasks.values.filter fun task => task.office == office && task.isGrouped).map (·.body)

theorem IsNumbered.bodiesOf_spawn (numbered : world.IsNumbered) (body : Body) :
    (world.spawn body office scope true).bodiesOf office = world.bodiesOf office ++ [body] := by
  simp [bodiesOf, Table.values, numbered.bindings_spawn]

theorem IsNumbered.spawnAll (numbered : world.IsNumbered) (bodies : List Body) :
    (world.spawnAll bodies office scope).IsNumbered ∧
      (world.spawnAll bodies office scope).offices = world.offices ∧
      (world.spawnAll bodies office scope).bodiesOf office = world.bodiesOf office ++ bodies := by
  induction bodies generalizing world with
  | nil => exact ⟨numbered, rfl, (List.append_nil _).symm⟩
  | cons body bodies ih =>
    obtain ⟨later, offices, tasks⟩ := ih (numbered.spawn body office scope true)
    refine ⟨later, offices, tasks.trans ?_⟩
    rw [numbered.bodiesOf_spawn, List.append_assoc]
    rfl

end World

namespace Assembly

/-- A world shows an assembly in an office: the tracker, the slot and the tasks that are counted. -/
structure Shows (world : World) (office : Nat) (assembly : Assembly) : Prop where
  tracker : (world.office office).tracker = assembly.tracker
  fatal : (world.office office).fatal = assembly.fatal
  tasks : world.bodiesOf office = assembly.tasks
  numbered : world.IsNumbered

variable {limits : Settings.Limits} {assembly : Assembly} {world : World} {task : Task}

theorem Shows.spawnAll {office : Nat} (shows : Shows world office assembly) (bodies : List Body)
    (scope : Nat) :
    Shows (world.spawnAll bodies office scope) office
      { assembly with tasks := assembly.tasks ++ bodies } := by
  obtain ⟨numbered, offices, tasks⟩ :=
    @World.IsNumbered.spawnAll world office scope shows.numbered bodies
  refine ⟨?_, ?_, tasks.trans (congrArg (· ++ bodies) shows.tasks), numbered⟩
  · rw [World.office, offices]
    exact shows.tracker
  · rw [World.office, offices]
    exact shows.fatal

theorem Shows.setTracker {office : Nat} (shows : Shows world office assembly) (tracker : Tracker) :
    Shows (world.setTracker office tracker) office { assembly with tracker } where
  tracker := by rw [World.setTracker, World.office_setOffice_self]
  fatal := by
    rw [World.setTracker, World.office_setOffice_self]
    exact shows.fatal
  tasks := shows.tasks
  numbered := ⟨shows.numbered.scopes, shows.numbered.tasks⟩

/-- **A command does in the simulation what it does to the assembly.** -/
theorem Shows.obey (shows : Shows world task.office assembly) (command : Scheduler.Command) :
    Shows (World.obey task (world, assembly.versions) command).1 task.office
        (assembly.obey command) ∧
      (World.obey task (world, assembly.versions) command).2 =
        (assembly.obey command).versions := by
  obtain ⟨stage, isShutDown, tracker, fatal, versions, tasks, trace⟩ := assembly
  cases command with
  | takeListing kind page =>
    obtain rfl : (world.office task.office).tracker = tracker := shows.tracker
    let effect := Synchronizer.takeListing kind (world.office task.office).tracker page
    have taken := (shows.setTracker effect.1).spawnAll (effect.2.map (.deletion · .idle)) task.scope
    exact ⟨⟨taken.tracker, taken.fatal, taken.tasks, taken.numbered⟩, rfl⟩
  | launch =>
    have launched := shows.spawnAll (World.componentsOf versions) task.scope
    exact ⟨⟨launched.tracker, launched.fatal, launched.tasks, launched.numbered⟩, rfl⟩
  | cancelAll =>
    exact ⟨⟨shows.tracker, shows.fatal, shows.tasks, shows.numbered.cancelScope _⟩, rfl⟩

theorem Shows.obeyAll (shows : Shows world task.office assembly)
    (commands : List Scheduler.Command) :
    Shows (commands.foldl (World.obey task) (world, assembly.versions)).1 task.office
        (commands.foldl Assembly.obey assembly) ∧
      (commands.foldl (World.obey task) (world, assembly.versions)).2 =
        (commands.foldl Assembly.obey assembly).versions := by
  induction commands generalizing world assembly with
  | nil => exact ⟨shows, rfl⟩
  | cons command commands ih =>
    obtain ⟨first, versions⟩ := shows.obey command
    have others := ih first
    rw [← versions] at others
    exact others

/-- The scheduler takes a listing in the simulation as it does in the assembly. -/
theorem Shows.listed (shows : Shows world task.office assembly) {kind : WorkKind}
    (waits : assembly.stage = .syncing kind) {result : Except SubstrateFault PodPage}
    {later : Scheduler.Stage} {commands : List Scheduler.Command}
    (stepped : Scheduler.step (.syncing kind) (.listed result) = some (later, commands)) :
    let next := assembly.act limits (.schedule (.listed result))
    Shows (commands.foldl (World.obey task) (world, assembly.versions)).1 task.office next ∧
      (commands.foldl (World.obey task) (world, assembly.versions)).2 = next.versions ∧
      next.stage = later := by
  intro next
  let taken : Assembly :=
    { assembly with
      stage := later
      trace := assembly.trace ++ seen (.syncing kind) (.listed result) }
  have same : next = commands.foldl Assembly.obey taken := by
    have admitted : assembly.admits (.listed result) = true := rfl
    simp only [next, act, schedule, waits, stepped]
    exact if_pos admitted
  have obeyed := @Shows.obeyAll taken world task
    ⟨shows.tracker, shows.fatal, shows.tasks, shows.numbered⟩ commands
  rw [same]
  exact ⟨obeyed.1, obeyed.2, stage_obeyAll taken commands⟩

/-- One listing of the start-up. -/
theorem Shows.syncFrom_cons (shows : Shows world task.office assembly) {kind : WorkKind}
    (waits : assembly.stage = .syncing kind) (later : List WorkKind) :
    let next := assembly.act limits (.schedule (.listed (world.substrate.list kind)))
    ∃ reached, Shows reached task.office next ∧
      World.syncFrom task (kind :: later) world assembly.versions =
        match next.stage with
        | .syncing _ => World.syncFrom task later reached next.versions
        | stage => (reached, stage) := by
  intro next
  have noted : Shows (world.note (.listed kind)) task.office assembly :=
    ⟨shows.tracker, shows.fatal, shows.tasks, ⟨shows.numbered.scopes, shows.numbered.tasks⟩⟩
  obtain ⟨⟨stage, commands⟩, stepped⟩ : ∃ result,
      Scheduler.step (.syncing kind) (.listed (world.substrate.list kind)) = some result := by
    cases kind <;> cases world.substrate.list _ <;> exact ⟨_, rfl⟩
  obtain ⟨reached, versions, same⟩ := noted.listed waits stepped
  refine ⟨_, reached, ?_⟩
  simp only [World.syncFrom, World.listPods, stepped, versions, same, next]
  cases stage <;> rfl

/-- **The start-up in the simulation is a run of the assembly**: the scheduler begins, and takes the
listings until it comes to a stage in which it has to wait. -/
theorem Shows.syncFrom (shows : Shows world task.office assembly) (idle : assembly.stage = .idle)
    (unlisted : assembly.versions = []) :
    ∃ inputs : List Scheduler.Input,
      let later := (inputs.map Action.schedule).foldl (act limits) assembly
      Shows (World.syncFrom task [.worker, .job] world []).1 task.office later ∧
        later.stage = (World.syncFrom task [.worker, .job] world []).2 := by
  let begun := assembly.act limits (.schedule .began)
  have begins : begun = { assembly with
      stage := .syncing .worker, trace := assembly.trace ++ seen assembly.stage .began } := by
    simp [begun, act, schedule, idle, Scheduler.step, admits, takeOut]
  have waits : begun.stage = .syncing .worker := by rw [begins]
  have versions : begun.versions = [] := by rw [begins, ← unlisted]
  have shown : Shows world task.office begun := by
    rw [begins]
    exact ⟨shows.tracker, shows.fatal, shows.tasks, shows.numbered⟩
  obtain ⟨reached, first, workers⟩ := @Shows.syncFrom_cons limits _ _ _ shown _ waits [.job]
  rw [versions] at workers
  rw [workers]
  cases found : world.substrate.list .worker with
  | error cause =>
    rw [found] at first workers
    have stage := @stage_schedule limits begun (.listed (.error cause)) _ _
      (by rw [waits]; rfl) rfl
    rw [stage]
    exact ⟨[.began, .listed (.error cause)], first, stage⟩
  | ok page =>
    rw [found] at first workers
    have stage := @stage_schedule limits begun (.listed (.ok page)) _ _ (by rw [waits]; rfl) rfl
    obtain ⟨reached', second, jobs⟩ := @Shows.syncFrom_cons limits _ _ _ first _ stage []
    rw [stage]
    dsimp only
    rw [jobs]
    cases found' : reached.substrate.list .job with
    | error cause =>
      rw [found'] at second
      have stage' := @stage_schedule limits _ (.listed (.error cause)) _ _
        (congrArg (Scheduler.step · (.listed (.error cause))) stage) rfl
      rw [stage']
      exact ⟨[.began, .listed (.ok page), .listed (.error cause)], second, stage'⟩
    | ok page' =>
      rw [found'] at second
      have stage' := @stage_schedule limits _ (.listed (.ok page')) _ _
        (congrArg (Scheduler.step · (.listed (.ok page'))) stage) rfl
      rw [stage']
      exact ⟨[.began, .listed (.ok page), .listed (.ok page')], second, stage'⟩

end Assembly

end Simulation

end Turnstile
