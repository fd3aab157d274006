import Mathlib.Data.Set.Function
import Turnstile.Proofs.Simulation.BackedTurns
import Turnstile.Simulation.Scenario

/-!
# Starts are within the admissions

A scheduler starts work only on admission, and admissions are only delivered by ticks at which fewer
pods were counted than the ceiling allows, for each kind of work apart. So in every world that a
scheduler can come to, each call that starts work is backed by a tick of its own, which came before
it (`starts_are_backed`): the first start of a kind by the first admission of the kind, and so on.

The worlds that a scheduler can come to (`Reached`) are those that any turns of its tasks lead to,
with anything happening in between to all that is not its own: messages, projects, pods and the
answers of services, the clock, and cancellations. The order in which signals are served is free,
and so are the signals.
-/

set_option autoImplicit false

namespace Turnstile.Simulation

/-! ## The worlds of a scheduler -/

/-- The worlds that a scheduler can come to. -/
inductive Reached (limits : Settings.Limits) : World → Prop where
  | start : Reached limits (Scenario.fresh limits).startScheduler.world
  /-- A task has a turn, with whatever signal. -/
  | turn {world : World} {number : Nat} {task : Task} (reached : Reached limits world)
    (found : world.tasks.get? number = some task) (signal : Signal) :
    Reached limits (world.turn number task signal)
  /-- Anything but the tasks, the offices and the notes changes. -/
  | elsewhere {world later : World} (reached : Reached limits world)
    (limited : later.limits = world.limits) (tasks : later.tasks = world.tasks)
    (next : later.nextTask = world.nextTask) (offices : later.offices = world.offices)
    (log : later.log = world.log) : Reached limits later

namespace Reached

variable {limits : Settings.Limits} {world : World}

/-- To serve a signal is to have a turn or to do nothing. -/
theorem serve (reached : Reached limits world) (wake : Wake) :
    Reached limits (world.serve wake) := by
  unfold World.serve
  split
  · exact reached
  case h_2 task found =>
    split
    · exact reached.turn found wake.signal
    · exact reached

/-- Serving signals leads to worlds of the scheduler. -/
theorem settleWithin (reached : Reached limits world) (turns : Nat) :
    Reached limits (World.settleWithin turns world) := by
  induction turns generalizing world with
  | zero => exact reached
  | succ turns ih =>
    unfold World.settleWithin
    split
    · exact reached
    case h_2 wake signals _ =>
      have taken : Reached limits { world with signals } := reached.elsewhere rfl rfl rfl rfl rfl
      exact ih (taken.serve wake)

theorem moveTo (reached : Reached limits world) (time : Nat) : Reached limits (world.moveTo time) :=
  reached.elsewhere rfl rfl rfl rfl rfl

/-- Letting time pass leads to worlds of the scheduler. -/
theorem advanceWithin (reached : Reached limits world) (instants time : Nat) :
    Reached limits (World.advanceWithin instants time world) := by
  induction instants generalizing world with
  | zero => exact reached.moveTo time
  | succ instants ih =>
    unfold World.advanceWithin
    split
    case h_1 due _ =>
      split
      · exact ih ((reached.moveTo due).settleWithin World.patience)
      · exact reached.moveTo time
    case h_2 => exact reached.moveTo time

end Reached

/-! ## All of them are backed -/

theorem World.Backed.fresh (limits : Settings.Limits) (office : Nat) :
    (World.fresh limits).Backed limits office where
  limited := rfl
  sound := by
    intro number task found
    rw [World.fresh, Table.get?_empty] at found
    cases found
  fair := fun _ member => absurd member List.not_mem_nil
  earlier := by
    intro kind log part
    rw [List.suffix_nil.1 part]
    exact Nat.le_refl _
  covered := by
    intro kind
    have unused : (World.fresh limits).office office = .fresh := by
      unfold World.office World.fresh Table.ofList
      by_cases shared : office = sharedOffice
      · rw [shared]
        rfl
      · simp [Table.get?_set_of_ne _ _ shared]
    rw [unused]
    cases kind <;> exact Nat.le_refl _

/-- In the worlds of a scheduler starts are backed in its office. -/
theorem Reached.backed {limits : Settings.Limits} {world : World} (reached : Reached limits world) :
    world.Backed limits (Scenario.fresh limits).startScheduler.office := by
  induction reached with
  | start =>
    let office := (Scenario.fresh limits).startScheduler.office
    let above := (World.fresh limits).openScope rootScope
    let own := above.2.openScope above.1
    have opened : own.2.Backed limits office :=
      ((World.Backed.fresh limits office).openScope rootScope).openScope above.1
    have arranged : (own.2.setOffice office .fresh).Backed limits office :=
      opened.setOffice fun kind => by cases kind <;> exact Nat.zero_le _
    have numbered : ({ own.2.setOffice office .fresh with nextOffice := office + 1 } :
        World).Backed limits office := arranged.of_same rfl rfl rfl rfl
    have spawned := numbered.spawn (by trivial : Body.IsSound (.scheduler .idle)) own.1 false
    exact spawned.of_same rfl rfl rfl rfl
  | turn _ found signal ih => exact ih.turn found signal
  | elsewhere _ limited tasks _ offices log ih => exact ih.of_same limited tasks offices log

/-! ## From numbers to ticks -/

section Matching

variable {α : Type} {isStart isTick : α → Bool} {events : List α}

/-- If up to every moment there are no more starts than ticks, then the tick with the number of a
start comes before it. -/
theorem findIdxNth_lt_of_countP_le
    (covered : ∀ earlier, earlier <+: events → earlier.countP isStart ≤ earlier.countP isTick)
    {position : Nat} {event : α} (here : events[position]? = some event) (start : isStart event)
    (apart : isTick event = false) :
    events.countPBefore isStart position < events.countP isTick ∧
      events.findIdxNth isTick (events.countPBefore isStart position) < position := by
  have more : events.countPBefore isStart position < events.countPBefore isTick position := by
    have upTo := covered _ (List.take_prefix (position + 1) events)
    rw [List.take_add_one, here, List.countP_append, List.countP_append] at upTo
    simp only [List.countPBefore_eq_countP_take]
    simpa [start, apart, Nat.succ_le_iff] using upTo
  have total := Nat.lt_of_lt_of_le more (List.countPBefore_le_countP isTick)
  refine ⟨total, Nat.lt_of_not_le fun late => ?_⟩
  have before : events.countPBefore isTick position ≤ events.countPBefore isTick
      (events.findIdxNth isTick (events.countPBefore isStart position)) :=
    List.countPBefore_mono late
  rw [List.countPBefore_findIdxNth_of_lt_countP total] at before
  exact Nat.not_lt.2 before more

/-- If up to every moment there are no more starts than ticks, then every start has a tick before
it that it shares with no other start. -/
theorem exists_backing
    (covered : ∀ earlier, earlier <+: events → earlier.countP isStart ≤ earlier.countP isTick)
    (apart : ∀ event, isStart event → isTick event = false) :
    ∃ backing : Nat → Nat,
      Set.InjOn backing {position | ∃ event, events[position]? = some event ∧ isStart event} ∧
      ∀ position event, events[position]? = some event → isStart event →
        backing position < position ∧
          ∃ tick, events[backing position]? = some tick ∧ isTick tick := by
  let backing := fun position => events.findIdxNth isTick (events.countPBefore isStart position)
  have matched : ∀ position event, events[position]? = some event → isStart event →
      events.countPBefore isStart position < events.countP isTick ∧
        backing position < position := fun position event here start =>
    findIdxNth_lt_of_countP_le covered here start (apart event start)
  have recovered : ∀ position event, events[position]? = some event → isStart event →
      events.findIdxNth isStart (events.countPBefore isStart position) = position := by
    intro position event here start
    obtain ⟨inside, rfl⟩ := List.getElem?_eq_some_iff.1 here
    exact List.findIdxNth_countPBefore_of_lt_length_of_pos start
  refine ⟨backing, ?_, fun position event here start => ?_⟩
  · rintro first ⟨event, here, start⟩ second ⟨event', there, start'⟩ same
    have number : events.countPBefore isStart first = events.countPBefore isStart second :=
      (List.findIdxNth_eq_findIdxNth_iff_of_left_lt_countP (matched first event here start).1).1
      same
    rw [← recovered first event here start, number, recovered second event' there start']
  · obtain ⟨inRange, before⟩ := matched position event here start
    have inside : backing position < events.length := List.findIdxNth_lt_length_of_lt_countP inRange
    exact ⟨before, events[backing position], List.getElem?_eq_getElem inside,
      List.pos_findIdxNth_getElem⟩

end Matching

/-! ## The theorem -/

theorem Notice.eq_of_isAdmission {kind : WorkKind} {notice : Notice}
    (admission : notice.isAdmission kind) :
    ∃ count ceiling, notice = .ticked kind count ceiling true := by
  cases notice with
  | ticked other count ceiling isDelivered =>
    simp only [isAdmission, Bool.and_eq_true, decide_eq_true_eq] at admission
    obtain ⟨rfl, rfl⟩ := admission
    exact ⟨count, ceiling, rfl⟩
  | _ => cases admission

theorem Notice.isAdmission_of_isStart {kind : WorkKind} {notice : Notice}
    (start : notice.isStart kind) : notice.isAdmission kind = false := by
  cases notice with
  | called => rfl
  | _ => cases start

namespace World.Backed

variable {limits : Settings.Limits} {office : Nat} {world : World}

/-- An admission is noted with a count below the ceiling of its kind. -/
theorem exists_count (backed : world.Backed limits office) {kind : WorkKind} {time : Nat}
    {notice : Notice} (member : (time, notice) ∈ world.log) (admission : notice.isAdmission kind) :
    ∃ count, notice = .ticked kind count (limits.ceiling kind) true ∧
      count < limits.ceiling kind := by
  obtain ⟨count, ceiling, rfl⟩ := Notice.eq_of_isAdmission admission
  obtain ⟨same, below⟩ : ceiling = limits.ceiling kind ∧ (true → count < ceiling) :=
    backed.fair _ member
  subst same
  exact ⟨count, rfl, below rfl⟩

theorem admissions_le (backed : world.Backed limits office) (kind : WorkKind) :
    Log.admissions world.log kind ≤ Log.ticksBelow world.log kind := by
  refine List.countP_mono_left fun entry member admission => ?_
  obtain ⟨count, same, below⟩ := backed.exists_count member admission
  simp [same, Notice.isBelow, below]

/-- The notes up to any moment, earliest first, hold no more starts than admissions. -/
theorem countP_le (backed : world.Backed limits office) (kind : WorkKind) (earlier : Log)
    (part : earlier <+: world.log.reverse) :
    earlier.countP (fun entry => entry.2.isStart kind) ≤
      earlier.countP fun entry => entry.2.isAdmission kind := by
  have before := backed.earlier kind earlier.reverse (by simpa using part.reverse)
  simpa [Log.starts, Log.admissions] using before

end World.Backed

/-- **Every start is backed by an admission of its own.** In every world that a scheduler can come
to, and for each kind of work, there were no more starts than admissions, and no more admissions
than ticks below the ceiling. Each start has a tick before it that it shares with no other start;
that tick counted fewer pods of the kind than the ceiling of the kind, and delivered an admission of
the kind. -/
theorem starts_are_backed {limits : Settings.Limits} {world : World}
    (reached : Reached limits world) (kind : WorkKind) :
    let history := world.log.reverse
    Log.starts world.log kind ≤ Log.admissions world.log kind ∧
    Log.admissions world.log kind ≤ Log.ticksBelow world.log kind ∧
    ∃ backing : Nat → Nat,
      Set.InjOn backing {position | ∃ entry, history[position]? = some entry ∧
        entry.2.isStart kind} ∧
      ∀ position entry, history[position]? = some entry → entry.2.isStart kind →
        backing position < position ∧ ∃ time count, history[backing position]? =
          some (time, .ticked kind count (limits.ceiling kind) true) ∧
          count < limits.ceiling kind := by
  intro history
  have backed := reached.backed
  refine ⟨backed.earlier kind world.log List.suffix_rfl, backed.admissions_le kind, ?_⟩
  obtain ⟨backing, distinct, before⟩ := exists_backing (backed.countP_le kind)
    fun entry start => Notice.isAdmission_of_isStart start
  refine ⟨backing, distinct, fun position entry here start => ?_⟩
  obtain ⟨earlier, ⟨time, notice⟩, there, admission⟩ := before position entry here start
  have member : (time, notice) ∈ world.log := List.mem_reverse.1 (List.mem_of_getElem? there)
  obtain ⟨count, rfl, below⟩ := backed.exists_count member admission
  exact ⟨earlier, time, count, there, below⟩

/-- At most one worker, no jobs, and a tick every second. -/
def oneWorkerLimits : Settings.Limits := ⟨1, 0, 1000, 30000, 0, 0, 0, 0⟩

theorem isValid_e : Identifier.IsValid "e" := by decide +kernel

theorem isValid_p : Identifier.IsValid "p" := by decide +kernel

/-- A scheduler that finds one project, and a message in it that asks for a worker. -/
def oneMessage : World :=
  let event : EventId := ⟨"e", isValid_e⟩
  let start := (Scenario.fresh oneWorkerLimits).startScheduler.world
  { start with
    api := { start.api with
      projects := [⟨"p", isValid_p⟩]
      events := .ofList [("e", ⟨event, none, .pending, .empty⟩)] }
    exchange := start.exchange.publish "workers.p" "e" }

/-- The same scheduler after its first tick. -/
def oneWorker : World := .advanceWithin 2 1000 (.settleWithin 100 oneMessage)

theorem reached_oneWorker : Reached oneWorkerLimits oneWorker := by
  have given : Reached oneWorkerLimits oneMessage := Reached.start.elsewhere rfl rfl rfl rfl rfl
  exact (given.settleWithin 100).advanceWithin 2 1000

theorem one_worker_is_backed :
    Log.starts oneWorker.log .worker = 1 ∧
      Log.starts oneWorker.log .worker ≤ Log.admissions oneWorker.log .worker ∧
      Log.admissions oneWorker.log .worker ≤ Log.ticksBelow oneWorker.log .worker ∧
      Log.starts oneWorker.log .job = 0 := by
  obtain ⟨starts, admissions, _⟩ := starts_are_backed reached_oneWorker .worker
  exact ⟨by decide +kernel, starts, admissions, by decide +kernel⟩

end Turnstile.Simulation
