import Mathlib.Data.List.Basic
import Turnstile.Proofs.Capacity
import Turnstile.Proofs.Table
import Turnstile.Simulation.Turns

/-!
# Worlds in which starts are backed

Of what is noted in a world, three things are about capacity: the ticks of the capacity managers,
those at which an admission was delivered among them, and the calls that start work. A world is
**backed** in an office if for each kind of work, and up to every moment, no more starts were called
than admissions were delivered; and those admitted at the present who have not taken it up are
covered too.

This module shows what does not disturb a backed world. Whatever leaves tasks, offices and notes
as they are does not (`Backed.of_same`); nor do a note about something else, a task that is
started or that goes on to another wait, and a change in an office by which nobody is admitted. The
two things that matter are the tick (`Backed.tick`) and the start of one who was admitted
(`Backed.start`).
-/

set_option autoImplicit false

namespace Turnstile.Simulation

/-! ## Notes about capacity -/

namespace Notice

/-- A call that starts work of a kind. -/
def isStart (kind : WorkKind) : Notice → Bool
  | called (.start work) => work.kind = kind
  | _ => false

/-- A tick of a kind at which an admission was delivered. -/
def isAdmission (kind : WorkKind) : Notice → Bool
  | ticked other _ _ isDelivered => other = kind && isDelivered
  | _ => false

/-- A tick of a kind at which fewer pods were counted than its ceiling allows. -/
def isBelow (kind : WorkKind) : Notice → Bool
  | ticked other count ceiling _ => other = kind && count < ceiling
  | _ => false

/-- Neither a tick nor a start. -/
def isPlain : Notice → Bool
  | called (.start _) => false
  | ticked _ _ _ _ => false
  | _ => true

theorem isStart_of_isPlain {notice : Notice} (plain : notice.isPlain) (kind : WorkKind) :
    notice.isStart kind = false := by
  unfold isStart
  split
  · cases plain
  · rfl

theorem isAdmission_of_isPlain {notice : Notice} (plain : notice.isPlain) (kind : WorkKind) :
    notice.isAdmission kind = false := by
  unfold isAdmission
  split
  · cases plain
  · rfl

end Notice

/-- The notes of a world, latest first. -/
abbrev Log := List (Nat × Notice)

namespace Log

/-- How many starts of a kind were called. -/
def starts (log : Log) (kind : WorkKind) : Nat := log.countP fun entry => entry.2.isStart kind

/-- How many admissions of a kind were delivered. -/
def admissions (log : Log) (kind : WorkKind) : Nat :=
  log.countP fun entry => entry.2.isAdmission kind

/-- At how many ticks of a kind fewer pods were counted than its ceiling allows. -/
def ticksBelow (log : Log) (kind : WorkKind) : Nat :=
  log.countP fun entry => entry.2.isBelow kind

theorem starts_cons (log : Log) (time : Nat) (notice : Notice) (kind : WorkKind) :
    starts ((time, notice) :: log) kind =
      log.starts kind + if notice.isStart kind then 1 else 0 := List.countP_cons

theorem admissions_cons (log : Log) (time : Nat) (notice : Notice) (kind : WorkKind) :
    admissions ((time, notice) :: log) kind =
      log.admissions kind + if notice.isAdmission kind then 1 else 0 := List.countP_cons

end Log

/-! ## Sound tasks -/

/-- The work that a consumer has in hand. -/
def workInHand? : Consumer.Stage Reader Parcel → Option Work
  | .awaiting _ _ work => some work
  | .dispatching _ _ work => some work
  | _ => none

/-- Whether an input can be a reply to a consumer of a kind: no admission is, and work that is asked
for has to be of the kind. -/
def RepliesTo (kind : WorkKind) : Consumer.Input Reader Parcel → Prop
  | .admitted => False
  | .inspected (.dispatch work) => work.kind = kind
  | _ => True

/-- Whether a consumer of a kind can wait for a reply. -/
def PendingReply.IsSound (kind : WorkKind) : PendingReply → Prop
  | settled input => RepliesTo kind input
  | fetch work => work.kind = kind
  | start _ => True

/-- Whether the work in hand in a stage is of a kind. -/
def HoldsOwn (kind : WorkKind) (stage : Consumer.Stage Reader Parcel) : Prop :=
  ∀ work, workInHand? stage = some work → work.kind = kind

/-- A consumer has work of its own kind in hand and waits for a reply that it can wait for. -/
structure ConsumerTask.IsSound (consumer : ConsumerTask) : Prop where
  inHand : HoldsOwn consumer.kind consumer.stage
  reply : ∀ reply, consumer.pending = some reply → reply.IsSound consumer.kind

/-- A consumer has to be sound; nothing is asked of other tasks. -/
def Body.IsSound : Body → Prop
  | consumer task => task.IsSound
  | _ => True

/-! ## Backed worlds -/

/-- A tick is fair if the ceiling is that of its kind, and an admission is only delivered below
it. -/
def Notice.IsFair (limits : Settings.Limits) : Notice → Prop
  | ticked kind count ceiling isDelivered =>
    ceiling = limits.ceiling kind ∧ (isDelivered → count < ceiling)
  | _ => True

theorem Notice.IsFair.of_isPlain {limits : Settings.Limits} {notice : Notice}
    (plain : notice.isPlain) : notice.IsFair limits := by
  cases notice <;> trivial

/-- All tasks belong to the office and are sound; an admission is only delivered below the ceiling
of its kind; and in each kind the starts up to any moment, and at present the admissions that
nobody has taken up yet, are covered by the admissions that were delivered. -/
structure World.Backed (limits : Settings.Limits) (office : Nat) (world : World) : Prop where
  limited : world.limits = limits
  sound : ∀ number task, world.tasks.get? number = some task →
    task.office = office ∧ task.body.IsSound
  fair : ∀ entry ∈ world.log, entry.2.IsFair limits
  earlier : ∀ kind (log : Log), log <:+ world.log → log.starts kind ≤ log.admissions kind
  covered : ∀ kind, Log.starts world.log kind +
    ((world.office office).admission kind).handed.length ≤ Log.admissions world.log kind

/-! ## Offices and ticks -/

namespace Office

@[simp] theorem admission_setAdmission_self (office : Office) (kind : WorkKind)
    (admission : Admission Nat) :
    (office.setAdmission kind admission).admission kind = admission := by
  cases kind <;> rfl

theorem admission_setAdmission_of_ne (office : Office) {kind other : WorkKind}
    (admission : Admission Nat) (different : other ≠ kind) :
    (office.setAdmission kind admission).admission other = office.admission other := by
  cases kind <;> cases other <;> first | rfl | exact absurd rfl different

end Office

@[simp] theorem World.office_setOffice_self (world : World) (number : Nat) (office : Office) :
    (world.setOffice number office).office number = office := by
  simp [World.office, World.setOffice]

theorem World.office_setOffice_of_ne (world : World) {number other : Nat} (office : Office)
    (different : other ≠ number) :
    (world.setOffice number office).office other = world.office other := by
  simp [World.office, World.setOffice, Table.get?_set_of_ne _ _ different]

/-- A tick admits one more below the ceiling, who gets a signal, or nobody. -/
theorem World.tick_cases (world : World) (number : Nat) (kind : WorkKind) {office : Office}
    (here : world.office number = office) :
    (∃ line id, office.tracker.count kind < world.limits.ceiling kind ∧ world.tick number kind =
      ((world.setOffice number (office.setAdmission kind
        ⟨line, (office.admission kind).handed ++ [id]⟩)).signal id .woken).note
          (.ticked kind (office.tracker.count kind) (world.limits.ceiling kind) true)) ∨
    ∃ line, world.tick number kind =
      (world.setOffice number
        (office.setAdmission kind ⟨line, (office.admission kind).handed⟩)).note
          (.ticked kind (office.tracker.count kind) (world.limits.ceiling kind) false) := by
  unfold World.tick World.offerWith Gate.tick
  rw [here]
  rcases office.tracker.offerBelow_cases kind (world.limits.ceiling kind)
      (office.admission kind) with ⟨line, id, below, offered⟩ | ⟨line, offered⟩
  · refine .inl ⟨line, id, below, ?_⟩
    have admitted := office.admission_setAdmission_self kind
      ⟨line, (office.admission kind).handed ++ [id]⟩
    simp only [Office.setAdmission] at admitted
    simp [offered, admitted, Office.setAdmission]
  · refine .inr ⟨line, ?_⟩
    simp [offered, Office.setAdmission]

theorem World.note_signal (world : World) (task : Nat) (signal : Signal) (notice : Notice) :
    (world.signal task signal).note notice = (world.note notice).signal task signal := by
  cases found : world.tasks.get? task <;> simp [World.signal, World.note, found]

namespace World.Backed

variable {limits : Settings.Limits} {office number : Nat} {world later : World}

/-! ### What leaves tasks, offices and notes as they are -/

theorem of_same (backed : world.Backed limits office) (limited : later.limits = world.limits)
    (tasks : later.tasks = world.tasks) (offices : later.offices = world.offices)
    (log : later.log = world.log) : later.Backed limits office where
  limited := limited.trans backed.limited
  sound := tasks ▸ backed.sound
  fair := log ▸ backed.fair
  earlier := log ▸ backed.earlier
  covered := by
    intro kind
    have same : later.office office = world.office office := by simp [World.office, offices]
    rw [log, same]
    exact backed.covered kind

theorem signal (backed : world.Backed limits office) (task : Nat) (signal : Signal) :
    (world.signal task signal).Backed limits office := by
  unfold World.signal
  split
  · exact backed
  · exact backed.of_same rfl rfl rfl rfl

theorem signalAtOnce (backed : world.Backed limits office) (task : Nat) (signal : Signal) :
    (world.signalAtOnce task signal).Backed limits office := by
  unfold World.signalAtOnce
  split
  · exact backed
  · exact backed.of_same rfl rfl rfl rfl

theorem signalAfter (backed : world.Backed limits office) (task delay : Nat) (signal : Signal) :
    (world.signalAfter task delay signal).Backed limits office := by
  unfold World.signalAfter
  split
  · exact backed.signalAtOnce task signal
  · split
    · exact backed
    · exact backed.of_same rfl rfl rfl rfl

theorem foldl {α : Type} {change : World → α → World}
    (kept : ∀ earlier item, Backed limits office earlier →
      (change earlier item).Backed limits office)
    (items : List α) (backed : world.Backed limits office) :
    (items.foldl change world).Backed limits office := by
  induction items generalizing world with
  | nil => exact backed
  | cons item rest ih => exact ih (kept world item backed)

theorem openScope (backed : world.Backed limits office) (parent : Nat) :
    (world.openScope parent).2.Backed limits office := backed.of_same rfl rfl rfl rfl

theorem cancelScope (backed : world.Backed limits office) (scope : Nat) :
    (world.cancelScope scope).Backed limits office := backed.of_same rfl rfl rfl rfl

theorem setExchange (backed : world.Backed limits office) (exchange : Exchange Nat) :
    (world.setExchange exchange).Backed limits office := by
  refine foldl (fun _ read kept => kept.signal read.owner .woken) _ ?_
  exact backed.of_same rfl rfl rfl rfl

theorem setSubstrate (backed : world.Backed limits office) (substrate : Substrate) :
    (world.setSubstrate substrate).Backed limits office := by
  refine foldl (fun _ owner kept => kept.signal owner .woken) _ ?_
  exact backed.of_same rfl rfl rfl rfl

theorem wakeSchedulers (backed : world.Backed limits office) (number : Nat) :
    (world.wakeSchedulers number).Backed limits office :=
  foldl (fun _ binding kept => kept.signal binding.1 .woken) _ backed

/-! ### Notes -/

/-- A fair note with a change in the office, provided that the starts remain covered. -/
theorem of_cons (backed : world.Backed limits office) {time : Nat} {notice : Notice}
    {changed : Office} (limited : later.limits = world.limits) (tasks : later.tasks = world.tasks)
    (log : later.log = (time, notice) :: world.log) (here : later.office office = changed)
    (fair : notice.IsFair limits)
    (covered : ∀ kind, Log.starts world.log kind + (if notice.isStart kind then 1 else 0) +
      (changed.admission kind).handed.length ≤
        Log.admissions world.log kind + if notice.isAdmission kind then 1 else 0) :
    later.Backed limits office := by
  have coveredNow : ∀ kind, Log.starts later.log kind +
      ((later.office office).admission kind).handed.length ≤ Log.admissions later.log kind := by
    intro kind
    rw [log, Log.starts_cons, Log.admissions_cons, here]
    exact covered kind
  refine ⟨limited.trans backed.limited, tasks ▸ backed.sound, ?_, ?_, coveredNow⟩
  · intro entry member
    rw [log] at member
    rcases List.mem_cons.1 member with rfl | member
    · exact fair
    · exact backed.fair entry member
  · intro kind earlier part
    rw [log] at part
    rcases List.suffix_cons_iff.1 part with rfl | part
    · rw [← log]
      exact Nat.le_of_add_right_le (coveredNow kind)
    · exact backed.earlier kind earlier part

/-- A note about something else. -/
theorem note (backed : world.Backed limits office) {notice : Notice} (plain : notice.isPlain) :
    (world.note notice).Backed limits office := by
  refine backed.of_cons rfl rfl rfl rfl (.of_isPlain plain) fun kind => ?_
  rw [Notice.isStart_of_isPlain plain, Notice.isAdmission_of_isPlain plain]
  exact backed.covered kind

/-! ### Tasks -/

theorem of_tasks (backed : world.Backed limits office) {tasks : Table Nat Task}
    (sound : ∀ number task, tasks.get? number = some task →
      task.office = office ∧ task.body.IsSound) :
    ({ world with tasks } : World).Backed limits office where
  limited := backed.limited
  sound := sound
  fair := backed.fair
  earlier := backed.earlier
  covered := backed.covered

/-- A sound task may take the place of another one, or a new place. -/
theorem sound_set (backed : world.Backed limits office) {added : Task}
    (mine : added.office = office) (sound : added.body.IsSound) (place number : Nat) (task : Task)
    (found : (world.tasks.set place added).get? number = some task) :
    task.office = office ∧ task.body.IsSound := by
  rcases Table.get?_set_cases found with ⟨_, rfl⟩ | ⟨_, before⟩
  · exact ⟨mine, sound⟩
  · exact backed.sound number task before

theorem beginWait (backed : world.Backed limits office) {body : Body} (sound : body.IsSound)
    (number : Nat) : (world.beginWait number body).Backed limits office := by
  unfold World.beginWait
  split
  · exact backed
  case h_2 task found =>
    let added : Task := { task with body, serial := task.serial + 1 }
    have mine : added.office = office := (backed.sound number task found).1
    exact backed.of_tasks (backed.sound_set mine sound number)

theorem spawn (backed : world.Backed limits office) {body : Body} (sound : body.IsSound)
    (scope : Nat) (isGrouped : Bool) :
    (world.spawn body office scope isGrouped).Backed limits office := by
  let added : Task := ⟨body, office, scope, isGrouped, 0⟩
  have mine : added.office = office := rfl
  have placed := backed.of_tasks (backed.sound_set mine sound world.nextTask)
  exact placed.of_same rfl rfl rfl rfl

theorem spawnAll (backed : world.Backed limits office) {bodies : List Body}
    (sound : ∀ body ∈ bodies, body.IsSound) (scope : Nat) :
    (world.spawnAll bodies office scope).Backed limits office := by
  unfold World.spawnAll
  induction bodies generalizing world with
  | nil => exact backed
  | cons body rest ih =>
    refine ih (backed.spawn (sound body List.mem_cons_self) scope true) fun body member => ?_
    exact sound body (List.mem_cons_of_mem _ member)

theorem finish (backed : world.Backed limits office) (number : Nat)
    (outcome : Option Scheduler.Outcome) :
    (world.finish number outcome).Backed limits office := by
  unfold World.finish
  split
  · exact backed
  case h_2 task found =>
    have erased :
        ({ world with tasks := world.tasks.erase number } : World).Backed limits office := by
      refine backed.of_tasks fun other task found => ?_
      obtain ⟨_, before⟩ := Table.get?_erase_cases found
      exact backed.sound other task before
    dsimp only
    split
    · refine wakeSchedulers ?_ task.office
      exact erased.of_same rfl rfl rfl rfl
    · exact erased.of_same rfl rfl rfl rfl

/-! ### Offices -/

/-- A change in some office by which nobody else is admitted. -/
theorem setOffice (backed : world.Backed limits office) {number : Nat} {changed : Office}
    (fewer : ∀ kind, (changed.admission kind).handed.length ≤
      ((world.office number).admission kind).handed.length) :
    (world.setOffice number changed).Backed limits office where
  limited := backed.limited
  sound := backed.sound
  fair := backed.fair
  earlier := backed.earlier
  covered := by
    intro kind
    have before := backed.covered kind
    by_cases same : office = number
    · subst same
      rw [office_setOffice_self]
      exact Nat.le_trans (Nat.add_le_add_left (fewer kind) _) before
    · rw [office_setOffice_of_ne world changed same]
      exact before

theorem setTracker (backed : world.Backed limits office) (number : Nat) (tracker : Tracker) :
    (world.setTracker number tracker).Backed limits office := by
  refine backed.setOffice fun kind => ?_
  cases kind <;> exact Nat.le_refl _

theorem report (backed : world.Backed limits office) (number : Nat) (fault : FatalFault) :
    (world.report number fault).Backed limits office := by
  refine wakeSchedulers (backed.setOffice fun kind => ?_) number
  cases kind <;> exact Nat.le_refl _

/-- A change in a line for admission by which nobody else is admitted. -/
theorem setAdmission (backed : world.Backed limits office) {kind : WorkKind} {line : Admission Nat}
    (fewer : line.handed.length ≤ ((world.office number).admission kind).handed.length) :
    (world.setOffice number ((world.office number).setAdmission kind line)).Backed limits
      office := by
  refine backed.setOffice fun other => ?_
  by_cases same : other = kind
  · subst same
    rw [Office.admission_setAdmission_self]
    exact fewer
  · exact Nat.le_of_eq (by rw [Office.admission_setAdmission_of_ne _ _ same])

/-! ### Ticks and starts -/

/-- A start of one who was admitted. -/
theorem start (backed : world.Backed limits office) {work : Work} {line : Admission Nat}
    (taken : ((world.office office).admission work.kind).take? number = some line) :
    ((world.setOffice office ((world.office office).setAdmission work.kind line)).note
      (.called (.start work))).Backed limits office := by
  have fewer := Admission.length_lt_of_take? taken
  refine backed.of_cons rfl rfl rfl (world.office_setOffice_self _ _) trivial fun kind => ?_
  have before := backed.covered kind
  by_cases same : kind = work.kind
  · subst same
    rw [Office.admission_setAdmission_self]
    simp only [Notice.isStart, Notice.isAdmission, decide_true, if_true]
    omega
  · rw [Office.admission_setAdmission_of_ne _ _ same]
    simpa [Notice.isStart, Notice.isAdmission, Ne.symm same] using before

/-- A tick of a capacity manager. -/
theorem tick (backed : world.Backed limits office) (kind : WorkKind) :
    (world.tick office kind).Backed limits office := by
  have ceiling : world.limits.ceiling kind = limits.ceiling kind :=
    congrArg (·.ceiling kind) backed.limited
  rcases world.tick_cases office kind rfl with ⟨line, id, below, ticked⟩ | ⟨line, ticked⟩
  · rw [ticked, note_signal]
    refine signal ?_ id .woken
    refine backed.of_cons rfl rfl rfl (world.office_setOffice_self _ _)
      ⟨ceiling, fun _ => below⟩ fun other => ?_
    have before := backed.covered other
    by_cases same : other = kind
    · subst same
      rw [Office.admission_setAdmission_self, List.length_append]
      simp only [Notice.isStart, Notice.isAdmission, decide_true, Bool.and_self, if_true]
      exact Nat.succ_le_succ before
    · rw [Office.admission_setAdmission_of_ne _ _ same]
      simpa [Notice.isStart, Notice.isAdmission, Ne.symm same] using before
  · rw [ticked]
    refine backed.of_cons rfl rfl rfl (world.office_setOffice_self _ _) ⟨ceiling, nofun⟩
      fun other => ?_
    have before := backed.covered other
    by_cases same : other = kind
    · subst same
      rw [Office.admission_setAdmission_self]
      simpa [Notice.isStart, Notice.isAdmission] using before
    · rw [Office.admission_setAdmission_of_ne _ _ same]
      simpa [Notice.isStart, Notice.isAdmission, Ne.symm same] using before

end World.Backed

end Turnstile.Simulation
