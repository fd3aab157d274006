import Turnstile.Proofs.Consumer.Run
import Turnstile.Proofs.Simulation.Backed
import Turnstile.Proofs.Work

/-!
# Turns keep worlds backed

No turn of a task disturbs a world in which starts are backed (`World.Backed.turn`). Only two kinds
of turns have to do with capacity at all: the ticks of capacity managers, and the turn of a consumer
that takes up its admission, which is the only one that calls a start.
-/

set_option autoImplicit false

namespace Turnstile

namespace Simulation

/-- A move by a reply leads to a stage with work of the right kind, and not to a start. -/
theorem HoldsOwn.of_move {kind : WorkKind} {stage later : Consumer.Stage Reader Parcel}
    {input : Consumer.Input Reader Parcel} (holds : HoldsOwn kind stage)
    (move : Consumer.Move stage input later) (replies : RepliesTo kind input) :
    HoldsOwn kind later ∧ ∀ work, later.call? ≠ some (.dispatch work) := by
  cases move with
  | began isCancelled => cases isCancelled <;> exact ⟨nofun, nofun⟩
  | closed reader resumes isCancelled =>
    cases resumes <;> cases isCancelled <;> exact ⟨nofun, nofun⟩
  | wanted reader message work =>
    refine ⟨fun other same => ?_, nofun⟩
    cases same
    exact replies
  | admitted => exact replies.elim
  | _ => exact ⟨nofun, nofun⟩

/-- A consumer that is admitted calls the start of the work that it has in hand. -/
theorem World.feedConsumer_awaiting (world : World) (number : Nat) (task : Task)
    {consumer : ConsumerTask} {reader : Reader} {parcel : Parcel} {work : Work}
    (waits : consumer.stage = .awaiting reader parcel work) :
    world.feedConsumer number task consumer .admitted =
      (world.note (.called (.start work))).waitForReply number
        { consumer with stage := .dispatching reader parcel work } world.api.startLatency
        (.start work) := by
  simp [feedConsumer, waits, Consumer.Stage.next?, enterConsumer, Consumer.Stage.isCancellable,
    Consumer.Stage.call?, Consumer.Stage.isOver, makeCall]

namespace World.Backed

variable {limits : Settings.Limits} {office number : Nat} {world : World} {task : Task}

/-! ## Consumers -/

section Consumers

variable {consumer : ConsumerTask}

theorem waitForReply (backed : world.Backed limits office)
    (holds : HoldsOwn consumer.kind consumer.stage) {reply : PendingReply}
    (sound : reply.IsSound consumer.kind) (number delay : Nat) :
    (world.waitForReply number consumer delay reply).Backed limits office := by
  have waits : Body.IsSound (.consumer { consumer with pending := some reply }) := by
    refine ConsumerTask.IsSound.mk holds fun other same => ?_
    cases same
    exact sound
  exact (backed.beginWait waits number).signalAfter number delay .replied

theorem waitForWaking (backed : world.Backed limits office)
    (holds : HoldsOwn consumer.kind consumer.stage) (number : Nat) :
    (world.waitForWaking number consumer).Backed limits office := by
  have waits : Body.IsSound (.consumer { consumer with pending := none }) :=
    ConsumerTask.IsSound.mk holds nofun
  exact backed.beginWait waits number

theorem beginOpening (backed : world.Backed limits office)
    (holds : HoldsOwn consumer.kind consumer.stage) (number : Nat) :
    (world.beginOpening number consumer).Backed limits office := by
  unfold World.beginOpening
  dsimp only
  split
  · split
    · exact (backed.setExchange _).waitForReply holds (by trivial) number 0
    · exact backed.waitForReply holds (by trivial) number 0
  · have noted :
        (world.note (.opened (consumer.kind.queueName consumer.project.text))).Backed limits
          office := backed.note rfl
    split
    · exact noted.waitForWaking holds number
    · refine waitForReply noted ?_ (by trivial) number _
      exact holds

theorem tryReading (backed : world.Backed limits office)
    (holds : HoldsOwn consumer.kind consumer.stage) (number : Nat) (reader : ReaderRef) :
    (world.tryReading number consumer reader).Backed limits office := by
  unfold World.tryReading
  have attempted := backed.setExchange (world.exchange.attempt ⟨number, reader⟩).2
  dsimp only
  split
  · exact attempted.waitForReply holds (by trivial) number 0
  · exact attempted.waitForReply holds (by trivial) number 0
  · exact attempted.waitForWaking holds number

theorem readScript (backed : world.Backed limits office)
    (holds : HoldsOwn consumer.kind consumer.stage) (number : Nat) (script : Script) :
    (world.readScript number consumer script).Backed limits office := by
  unfold World.readScript
  have noted : (world.note .read).Backed limits office := backed.note rfl
  dsimp only
  split
  · exact noted.waitForWaking holds number
  · refine waitForReply noted ?_ (by trivial) number _
    exact holds

theorem beginInspecting (backed : world.Backed limits office)
    (holds : HoldsOwn consumer.kind consumer.stage) (number : Nat) (parcel : Parcel) :
    (world.beginInspecting number consumer parcel).Backed limits office := by
  unfold World.beginInspecting
  split
  · exact backed.waitForReply holds (by trivial) number 0
  case h_2 work asked =>
    have noted : (world.note (.called (.getEvent work.event))).Backed limits office :=
      backed.note rfl
    have sound : (PendingReply.fetch work).IsSound consumer.kind := Work.kind_of_ofMessage? asked
    exact noted.waitForReply holds sound number _

theorem acknowledge (backed : world.Backed limits office)
    (holds : HoldsOwn consumer.kind consumer.stage) (number : Nat) (parcel : Parcel) :
    (world.acknowledge number consumer parcel).Backed limits office := by
  unfold World.acknowledge
  dsimp only
  split
  · exact (backed.setExchange _).waitForReply holds (by trivial) number 0
  · refine waitForReply (backed.note ?_) holds (by trivial) number 0
    rfl

theorem beginClosing (backed : world.Backed limits office)
    (holds : HoldsOwn consumer.kind consumer.stage) (number : Nat) (reader : Reader) :
    (world.beginClosing number consumer reader).Backed limits office := by
  unfold World.beginClosing
  split
  · exact (backed.setExchange _).waitForReply holds (by trivial) number 0
  · have noted : (world.note .closing).Backed limits office := backed.note rfl
    exact (noted.waitForReply holds (by trivial) number _).signalAfter number _ .expired

/-- A call that starts nothing. -/
theorem makeCall (backed : world.Backed limits office)
    (holds : HoldsOwn consumer.kind consumer.stage) (number : Nat)
    {call : Consumer.Call Reader Parcel} (other : ∀ work, call ≠ .dispatch work) :
    (world.makeCall number task consumer call).Backed limits office := by
  cases call with
  | openReader => exact backed.beginOpening holds number
  | read reader =>
    cases reader with
    | broker reader => exact backed.tryReading holds number reader
    | scripted => exact backed.readScript holds number _
  | inspect parcel => exact backed.beginInspecting holds number parcel
  | wait =>
    let line := ((world.office task.office).admission consumer.kind).wait number
    have entered : (world.setOffice task.office
        ((world.office task.office).setAdmission consumer.kind line)).Backed limits office :=
      backed.setAdmission (Nat.le_refl _)
    exact entered.waitForWaking holds number
  | dispatch work => exact absurd rfl (other work)
  | acknowledge parcel => exact backed.acknowledge holds number parcel
  | close reader => exact backed.beginClosing holds number reader
  | report fault => exact backed.report task.office _

theorem finishIf (backed : world.Backed limits office) (isOver : Bool) (number : Nat) :
    (if isOver then world.finish number none else world).Backed limits office := by
  split
  · exact backed.finish number none
  · exact backed

/-- A stage that starts nothing. -/
theorem enterConsumer (backed : world.Backed limits office)
    (holds : HoldsOwn consumer.kind consumer.stage)
    (other : ∀ work, consumer.stage.call? ≠ some (.dispatch work)) (number : Nat) :
    (world.enterConsumer number task consumer).Backed limits office := by
  unfold World.enterConsumer
  split
  · exact (backed.waitForWaking holds number).signalAtOnce number .cancelled
  · cases made : consumer.stage.call? with
    | none => exact backed.finishIf consumer.stage.isOver number
    | some call =>
      have called : (world.makeCall number task consumer call).Backed limits office :=
        backed.makeCall holds number fun work same => other work (same ▸ made)
      exact called.finishIf consumer.stage.isOver number

/-- An input that is no admission. -/
theorem feedConsumer (backed : world.Backed limits office)
    (holds : HoldsOwn consumer.kind consumer.stage) (number : Nat)
    {input : Consumer.Input Reader Parcel} (replies : RepliesTo consumer.kind input) :
    (world.feedConsumer number task consumer input).Backed limits office := by
  unfold World.feedConsumer
  split
  · exact backed
  case h_2 stage next =>
    obtain ⟨holdsThen, other⟩ := holds.of_move (.of_next? next) replies
    exact enterConsumer backed holdsThen other number

/-- Whoever takes up an admission starts the work in hand. -/
theorem feedConsumer_admitted (backed : world.Backed limits office) (mine : task.office = office)
    (holds : HoldsOwn consumer.kind consumer.stage) {reader : Reader} {parcel : Parcel}
    {work : Work}
    (waits : consumer.stage = .awaiting reader parcel work) (number : Nat) {line : Admission Nat}
    (taken : ((world.office task.office).admission consumer.kind).take? number = some line) :
    ((world.setOffice task.office
      ((world.office task.office).setAdmission consumer.kind line)).feedConsumer number task
        consumer .admitted).Backed limits office := by
  subst mine
  have own : work.kind = consumer.kind := holds work (by rw [waits]; rfl)
  rw [← own] at taken ⊢
  rw [World.feedConsumer_awaiting _ _ _ waits]
  refine waitForReply (backed.start taken) (fun other same => ?_) (by trivial) number _
  cases same
  exact own

theorem startWork (backed : world.Backed limits office) (work : Work) :
    (world.startWork work).Backed limits office := by
  unfold World.startWork
  split
  · exact backed
  case h_2 api _ =>
    have answered : ({ world with api } : World).Backed limits office :=
      backed.of_same rfl rfl rfl rfl
    have started : (({ world with api } : World).note (.started work)).Backed limits office :=
      answered.note rfl
    dsimp only
    split
    · exact started.setSubstrate _
    · exact started

theorem withdrawConsumer (backed : world.Backed limits office) (number : Nat) :
    (world.withdrawConsumer number task consumer).Backed limits office := by
  unfold World.withdrawConsumer
  split
  · exact backed.setExchange _
  · exact backed.setAdmission (List.length_filter_le _ _)
  · exact backed

theorem settleConsumer (backed : world.Backed limits office)
    (holds : HoldsOwn consumer.kind consumer.stage) (number : Nat) {reply : PendingReply}
    (sound : reply.IsSound consumer.kind) :
    (world.settleConsumer number task consumer reply).Backed limits office := by
  unfold World.settleConsumer
  split
  case h_1 work =>
    refine feedConsumer backed holds number ?_
    split
    · exact sound
    · trivial
  case h_2 work => exact (backed.startWork work).feedConsumer holds number (by trivial)
  case h_3 isCancelled =>
    have noted :
        (if consumer.script.isSome then world.note .closed else world).Backed limits office := by
      split
      · exact backed.note rfl
      · exact backed
    exact noted.feedConsumer holds number (by trivial)
  case h_4 input _ => exact backed.feedConsumer holds number sound

theorem turnConsumer (backed : world.Backed limits office) (mine : task.office = office)
    (sound : consumer.IsSound) (number : Nat) (signal : Signal) :
    (world.turnConsumer number task consumer signal).Backed limits office := by
  have holds := sound.inHand
  unfold World.turnConsumer
  split
  · exact backed.feedConsumer holds number (by trivial)
  · exact (backed.withdrawConsumer number).feedConsumer holds number (by trivial)
  · exact backed.feedConsumer holds number (by trivial)
  case h_4 reply waits => exact backed.settleConsumer holds number (sound.reply reply waits)
  case h_5 reader _ => exact backed.tryReading holds number reader
  case h_6 waits =>
    dsimp only
    split
    · exact backed
    case h_2 line taken => exact backed.feedConsumer_admitted mine holds waits number taken
  · exact backed

end Consumers

/-! ## Synchronizers and deletions -/

section Synchronizers

variable {synchronizer : SynchronizerTask}

theorem takeEffect (backed : world.Backed limits office) (scope : Nat)
    (effect : Synchronizer.Effect) :
    (world.takeEffect office scope effect).Backed limits office := by
  refine (backed.setTracker office effect.1).spawnAll (fun body member => ?_) scope
  obtain ⟨pod, _, rfl⟩ := List.mem_map.1 member
  trivial

theorem awaitInput (backed : world.Backed limits office) (number delay : Nat)
    (input : Synchronizer.Input) :
    (world.awaitInput number synchronizer delay input).Backed limits office := by
  refine signalAfter (backed.beginWait ?_ number) number delay .replied
  trivial

theorem listPods (backed : world.Backed limits office) (kind : WorkKind) :
    (world.listPods kind).2.Backed limits office := backed.note rfl

theorem takeItem (backed : world.Backed limits office) (number : Nat) :
    (world.takeItem number synchronizer).Backed limits office := by
  unfold World.takeItem
  split
  · split
    · refine awaitInput ?_ number 0 _
      exact backed.of_same rfl rfl rfl rfl
    · split
      · exact backed.awaitInput number 0 _
      · exact backed
  · exact backed.awaitInput number 0 _

theorem enterSynchronizer (backed : world.Backed limits office) (number : Nat) :
    (world.enterSynchronizer number task synchronizer).Backed limits office := by
  unfold World.enterSynchronizer
  have waits : (world.beginWait number
      (.synchronizer { synchronizer with pending := none })).Backed limits office :=
    backed.beginWait (by trivial) number
  dsimp only
  split
  · exact waits.signalAtOnce number .cancelled
  · split
    · exact backed
    · exact (backed.listPods _).awaitInput number 0 _
    case h_3 version _ =>
      have noted : (world.note (.watched synchronizer.kind version)).Backed limits office :=
        backed.note rfl
      split
      · refine awaitInput ?_ number 0 _
        exact noted.of_same rfl rfl rfl rfl
      · exact noted.awaitInput number 0 _
    · exact waits.takeItem number
    · refine awaitInput ?_ number _ _
      exact backed.of_same rfl rfl rfl rfl
    · refine finish ?_ number none
      exact backed.of_same rfl rfl rfl rfl

theorem feedSynchronizer (backed : world.Backed limits office) (mine : task.office = office)
    (number : Nat) (input : Synchronizer.Input) :
    (world.feedSynchronizer number task synchronizer input).Backed limits office := by
  subst mine
  unfold World.feedSynchronizer
  dsimp only
  split
  · exact backed
  · exact (backed.takeEffect task.scope _).enterSynchronizer number

theorem turnSynchronizer (backed : world.Backed limits office) (mine : task.office = office)
    (number : Nat) (signal : Signal) :
    (world.turnSynchronizer number task synchronizer signal).Backed limits office := by
  unfold World.turnSynchronizer
  split
  · exact backed.feedSynchronizer mine number _
  · exact backed.feedSynchronizer mine number _
  · exact backed.feedSynchronizer mine number _
  · split
    · exact backed.takeItem number
    · exact backed
  · exact backed

theorem enterDeletion (backed : world.Backed limits office) (number : Nat) (pod : PodName)
    (stage : Deletion.Stage) :
    (world.enterDeletion number task pod stage).Backed limits office := by
  unfold World.enterDeletion
  have waits : (world.beginWait number (.deletion pod stage)).Backed limits office :=
    backed.beginWait (by trivial) number
  dsimp only
  split
  · exact backed
  · split
    · exact waits.signalAtOnce number .cancelled
    · exact waits.signalAfter number _ .expired
  · have noted :
        ((world.beginWait number (.deletion pod .deleting)).note (.deleted pod)).Backed limits
          office := waits.note rfl
    refine signalAtOnce ?_ number .replied
    split
    · exact noted.setSubstrate _
    · exact noted
  · exact backed.finish number none

theorem turnDeletion (backed : world.Backed limits office) (number : Nat) (pod : PodName)
    (stage : Deletion.Stage) (signal : Signal) :
    (world.turnDeletion number task pod stage signal).Backed limits office := by
  unfold World.turnDeletion
  dsimp only
  split
  · exact backed
  · exact backed.enterDeletion number pod _

end Synchronizers

/-! ## Capacity managers -/

theorem turnCapacity (backed : world.Backed limits office) (mine : task.office = office)
    (number : Nat) (kind : WorkKind) (stage : CapacityManager.Stage) (signal : Signal) :
    (world.turnCapacity number task kind stage signal).Backed limits office := by
  subst mine
  unfold World.turnCapacity
  dsimp only
  split
  · exact backed
  case h_2 stage offers _ =>
    have offered :
        (if offers then world.tick task.office kind else world).Backed limits task.office := by
      split
      · exact backed.tick kind
      · exact backed
    generalize (if offers then world.tick task.office kind else world) = ticked at offered ⊢
    have waits : (ticked.beginWait number (.capacity kind stage)).Backed limits task.office :=
      offered.beginWait (by trivial) number
    split
    · split
      · exact waits.signalAtOnce number .cancelled
      · exact waits.signalAfter number _ .expired
    · exact offered.finish number none
    · exact offered

/-! ## The project manager -/

section Projects

theorem reconcile (backed : world.Backed limits office) (registry : Registry) (scope : Nat)
    (wanted : List ProjectId) :
    (world.reconcile registry office scope wanted).2.Backed limits office := by
  unfold World.reconcile
  refine foldl (fun earlier pair kept => ?_) _ ?_
  · refine spawnAll (kept.openScope scope) (fun body member => ?_) _
    obtain ⟨kind, _, rfl⟩ := List.mem_map.1 member
    exact ConsumerTask.IsSound.mk nofun nofun
  · exact foldl (fun _ token kept => kept.cancelScope token) _ backed

theorem enterProjects (backed : world.Backed limits office) (number : Nat)
    (projects : ProjectsTask) :
    (world.enterProjects number task projects).Backed limits office := by
  unfold World.enterProjects
  have waits : (world.beginWait number (.projects projects)).Backed limits office :=
    backed.beginWait (by trivial) number
  dsimp only
  split
  · exact backed
  · split
    · exact waits.signalAtOnce number .cancelled
    · exact waits.signalAfter number _ .expired
  · have noted : ((world.beginWait number (.projects projects)).note
        (.called .listProjects)).Backed limits office := waits.note rfl
    exact noted.signalAfter number _ .replied
  · exact backed.finish number none
  · exact (backed.report task.office _).finish number none

theorem turnProjects (backed : world.Backed limits office) (mine : task.office = office)
    (number : Nat) (projects : ProjectsTask) (signal : Signal) :
    (world.turnProjects number task projects signal).Backed limits office := by
  subst mine
  unfold World.turnProjects
  dsimp only
  split
  · exact backed
  · exact backed.enterProjects number _
  · exact (backed.reconcile _ task.scope _).enterProjects number _

end Projects

/-! ## The scheduler -/

section Scheduler

theorem isSound_componentsOf (versions : List (WorkKind × String)) :
    ∀ body ∈ componentsOf versions, body.IsSound := by
  intro body member
  rcases List.mem_append.1 member with synchronizer | other
  · obtain ⟨pair, _, rfl⟩ := List.mem_map.1 synchronizer
    trivial
  · simp only [List.mem_cons, List.not_mem_nil, or_false] at other
    rcases other with rfl | rfl | rfl <;> trivial

theorem obey (mine : task.office = office) {state : World × List (WorkKind × String)}
    (backed : state.1.Backed limits office) (command : Scheduler.Command) :
    (World.obey task state command).1.Backed limits office := by
  subst mine
  obtain ⟨world, versions⟩ := state
  cases command with
  | takeListing kind page => exact backed.takeEffect task.scope _
  | launch => exact backed.spawnAll (isSound_componentsOf versions) task.scope
  | cancelAll => exact backed.cancelScope task.scope

theorem obeyAll (backed : world.Backed limits office) (mine : task.office = office)
    (versions : List (WorkKind × String)) (commands : List Scheduler.Command) :
    (commands.foldl (World.obey task) (world, versions)).1.Backed limits office := by
  suffices kept : ∀ state : World × List (WorkKind × String), state.1.Backed limits office →
      (commands.foldl (World.obey task) state).1.Backed limits office from kept _ backed
  induction commands with
  | nil => exact fun _ backed => backed
  | cons command rest ih => exact fun state backed => ih _ (obey mine backed command)

theorem syncFrom (mine : task.office = office) (remaining : List WorkKind)
    (backed : world.Backed limits office) (versions : List (WorkKind × String)) :
    (World.syncFrom task remaining world versions).1.Backed limits office := by
  induction remaining generalizing world versions with
  | nil => exact backed
  | cons kind later ih =>
    unfold World.syncFrom
    have listed := backed.listPods kind
    generalize world.listPods kind = result at listed ⊢
    obtain ⟨result, world⟩ := result
    dsimp only
    split
    · exact listed
    case h_2 stage commands _ =>
      have obeyed := listed.obeyAll mine versions commands
      generalize commands.foldl (World.obey task) (world, versions) = state at obeyed ⊢
      obtain ⟨world, versions⟩ := state
      dsimp only
      split
      · exact ih obeyed versions
      · exact obeyed

theorem enterScheduler (backed : world.Backed limits office) (number : Nat)
    (stage : Scheduler.Stage) :
    (world.enterScheduler number task stage).Backed limits office := by
  unfold World.enterScheduler
  have waits : (world.beginWait number (.scheduler stage)).Backed limits office :=
    backed.beginWait (by trivial) number
  dsimp only
  split
  · split
    · exact waits.signalAtOnce number .cancelled
    · split
      · exact waits.signalAtOnce number .woken
      · exact waits
  · split
    · exact waits.signalAtOnce number .expired
    · exact waits.signalAfter number _ .expired
  · exact backed.finish number _
  · exact backed

theorem turnScheduler (backed : world.Backed limits office) (mine : task.office = office)
    (number : Nat) (stage : Scheduler.Stage) (signal : Signal) :
    (world.turnScheduler number task stage signal).Backed limits office := by
  unfold World.turnScheduler
  split
  · exact (syncFrom mine [.worker, .job] backed []).enterScheduler number _
  · split
    · exact backed
    case h_2 stage commands _ =>
      exact (backed.obeyAll mine [] commands).enterScheduler number _

end Scheduler

/-! ## All tasks -/

/-- **No turn disturbs a backed world.** -/
theorem turn (backed : world.Backed limits office) (found : world.tasks.get? number = some task)
    (signal : Signal) : (world.turn number task signal).Backed limits office := by
  obtain ⟨mine, sound⟩ := backed.sound number task found
  unfold World.turn
  split
  case h_1 consumer body =>
    rw [body] at sound
    exact backed.turnConsumer mine sound number signal
  · exact backed.turnSynchronizer mine number signal
  · exact backed.turnDeletion number _ _ signal
  · exact backed.turnCapacity mine number _ _ signal
  · exact backed.turnProjects mine number _ signal
  · exact backed.turnScheduler mine number _ signal

end World.Backed

end Simulation

end Turnstile
