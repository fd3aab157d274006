import Mathlib.Data.Nat.Find
import Turnstile.Proofs.Amqp.Openings

/-!
# Attempts on a clock

A clock on which calls take time, each as long as a schedule says, keeps a record of the calls that
were made. On it a run of attempts is one of three (`Schedule.run_cases`): no call, the calls up to
the first that succeeds, or as many as the policy allows, all of them failures. The record is the
same in each of the three: a call begins one pause after the one before it has returned, and nothing
is waited for after the last (`Schedule.after`).
-/

set_option autoImplicit false

namespace Turnstile.Retry

/-- What each call comes to, and how many milliseconds it takes. -/
structure Schedule (ε α : Type) where
  outcome : Nat → Except ε α
  duration : Nat → Nat

/-- When a call began and when it returned. -/
structure Span where
  began : Nat
  returned : Nat

/-- The time, and the calls that were made, earliest first. -/
structure Clock where
  now : Nat
  calls : List Span

namespace Clock

variable {ε α : Type}

/-- A call takes its time, is recorded, and comes to what the schedule says. -/
def call (schedule : Schedule ε α) : StateM Clock (Except ε α) := fun clock =>
  let number := clock.calls.length
  let returned := clock.now + schedule.duration number
  (schedule.outcome number, ⟨returned, clock.calls ++ [⟨clock.now, returned⟩]⟩)

/-- Let time pass. -/
def pause (milliseconds : Nat) : StateM Clock Unit :=
  fun clock => ((), { clock with now := clock.now + milliseconds })

end Clock

namespace Schedule

variable {ε α : Type} (schedule : Schedule ε α) (pause start : Nat)

/-- When a call begins that is made at all: one pause after the one before it has returned. -/
def beginning : Nat → Nat
  | 0 => start
  | number + 1 => beginning number + schedule.duration number + pause

def span (number : Nat) : Span :=
  ⟨schedule.beginning pause start number,
    schedule.beginning pause start number + schedule.duration number⟩

/-- The clock when a number of calls have been made and the next one begins. -/
def before (count : Nat) : Clock :=
  ⟨schedule.beginning pause start count, (List.range count).map (schedule.span pause start)⟩

/-- The clock when the last of a number of calls has returned. -/
def after : Nat → Clock
  | 0 => ⟨start, []⟩
  | last + 1 =>
    ⟨(schedule.span pause start last).returned,
      (List.range (last + 1)).map (schedule.span pause start)⟩

variable {schedule pause start}

theorem run_call_before (number : Nat) :
    (Clock.call schedule).run (schedule.before pause start number) =
      (schedule.outcome number, schedule.after pause start (number + 1)) := by
  have made : (schedule.before pause start number).calls.length = number := by simp [before]
  simp only [StateT.run, Clock.call, made, after, List.range_succ, List.map_append]
  rfl

theorem next_before (policy : Policy) (number : Nat) :
    next policy Clock.pause (Clock.call schedule) (schedule.before policy.pause start number) =
      schedule.before policy.pause start (number + 1) := by
  rw [next, run_call_before]
  rfl

/-- What the clock says when an attempt begins, if all before it have failed. -/
theorem iterate_next (policy : Policy) (number : Nat) :
    (next policy Clock.pause (Clock.call schedule))^[number] ⟨start, []⟩ =
      schedule.before policy.pause start number := by
  induction number with
  | zero => rfl
  | succ number ih => rw [Function.iterate_succ_apply', ih, next_before]

/-! ## Whole runs -/

section Runs

variable {policy : Policy} (operation : String)

theorem run_of_no_attempts (none : policy.attempts = 0) :
    (attempt policy operation Clock.pause (Clock.call schedule)).run ⟨start, []⟩ =
      (.error (.notAttempted operation), schedule.after policy.pause start 0) :=
  attempt_of_no_attempts none _

theorem run_of_first_ok {number : Nat} {value : α} (within : number < policy.attempts)
    (fail : ∀ n < number, ∃ cause, schedule.outcome n = .error cause)
    (succeeds : schedule.outcome number = .ok value) :
    (attempt policy operation Clock.pause (Clock.call schedule)).run ⟨start, []⟩ =
      (.ok value, schedule.after policy.pause start (number + 1)) := by
  refine attemptsLeft_of_first_ok within (fun n earlier => ?_) ?_
  · rw [iterate_next, run_call_before]
    exact fail n earlier
  · rw [iterate_next, run_call_before, succeeds]

theorem run_of_all_error {number : Nat} {last : ε} (all : policy.attempts = number + 1)
    (fail : ∀ n < number, ∃ cause, schedule.outcome n = .error cause)
    (fails : schedule.outcome number = .error last) :
    (attempt policy operation Clock.pause (Clock.call schedule)).run ⟨start, []⟩ =
      (.error (.exhausted operation policy.attempts last),
        schedule.after policy.pause start (number + 1)) := by
  refine attempt_of_all_error all (fun n earlier => ?_) ?_
  · rw [iterate_next, run_call_before]
    exact fail n earlier
  · rw [iterate_next, run_call_before, fails]

/-- **How a run of attempts ends**: before the first call, with the first call that succeeds, or
with the last one that is allowed. -/
theorem run_cases (policy : Policy) (operation : String) (schedule : Schedule ε α) (start : Nat) :
    let run := (attempt policy operation Clock.pause (Clock.call schedule)).run ⟨start, []⟩
    let after := schedule.after policy.pause start
    (policy.attempts = 0 ∧ run = (.error (.notAttempted operation), after 0)) ∨
    (∃ number value, number < policy.attempts ∧
      (∀ n < number, ∃ cause, schedule.outcome n = .error cause) ∧
      schedule.outcome number = .ok value ∧ run = (.ok value, after (number + 1))) ∨
    ∃ number last, policy.attempts = number + 1 ∧
      (∀ n < number, ∃ cause, schedule.outcome n = .error cause) ∧
      schedule.outcome number = .error last ∧
      run = (.error (.exhausted operation policy.attempts last), after (number + 1)) := by
  intro run after
  have failed (n : Nat) (fails : ¬ ∃ value, schedule.outcome n = .ok value) :
      ∃ cause, schedule.outcome n = .error cause := by
    cases outcome : schedule.outcome n with
    | error cause => exact ⟨cause, rfl⟩
    | ok value => exact absurd ⟨value, outcome⟩ fails
  by_cases success : ∃ number < policy.attempts, ∃ value, schedule.outcome number = .ok value
  · classical
    obtain ⟨within, value, succeeds⟩ := Nat.find_spec success
    have fail : ∀ n < Nat.find success, ∃ cause, schedule.outcome n = .error cause := by
      refine fun n earlier => failed n fun succeeds => Nat.find_min success earlier ?_
      exact ⟨Nat.lt_trans earlier within, succeeds⟩
    exact .inr (.inl ⟨_, value, within, fail, succeeds,
      run_of_first_ok operation within fail succeeds⟩)
  · have fail : ∀ n < policy.attempts, ∃ cause, schedule.outcome n = .error cause :=
      fun n allowed => failed n fun succeeds => success ⟨n, allowed, succeeds⟩
    rcases Nat.eq_zero_or_eq_succ_pred policy.attempts with none | all
    · exact .inl ⟨none, run_of_no_attempts operation none⟩
    · obtain ⟨last, fails⟩ := fail _ (Nat.lt_of_lt_of_eq (Nat.lt_succ_self _) all.symm)
      have fail' : ∀ n < policy.attempts.pred, ∃ cause, schedule.outcome n = .error cause :=
        fun n earlier => fail n (Nat.lt_of_lt_of_le earlier (Nat.pred_le _))
      exact .inr (.inr ⟨_, last, all, fail', fails, run_of_all_error operation all fail' fails⟩)

end Runs

/-! ## The record of the calls -/

/-- The record of a clock that was started at some time: every call has taken the time of the
schedule, the next one begins one pause after it has returned, and nothing is waited for before the
first and after the last. -/
structure IsKeptBy (schedule : Schedule ε α) (pause start : Nat) (clock : Clock) : Prop where
  first : ∀ call, clock.calls[0]? = some call → call.began = start
  takes : ∀ number call, clock.calls[number]? = some call →
    call.returned = call.began + schedule.duration number
  apart : ∀ number call later, clock.calls[number]? = some call →
    clock.calls[number + 1]? = some later → later.began = call.returned + pause
  last : clock.now = (clock.calls.getLast?.map (·.returned)).getD start

theorem calls_after (schedule : Schedule ε α) (pause start count : Nat) :
    (schedule.after pause start count).calls =
      (List.range count).map (schedule.span pause start) := by
  cases count with
  | zero => rfl
  | succ last => rfl

@[simp] theorem length_calls_after (schedule : Schedule ε α) (pause start count : Nat) :
    (schedule.after pause start count).calls.length = count := by
  rw [calls_after, List.length_map, List.length_range]

theorem eq_span_of_getElem? {count number : Nat} {call : Span}
    (made : (schedule.after pause start count).calls[number]? = some call) :
    call = schedule.span pause start number := by
  simp only [calls_after, List.getElem?_map, Option.map_eq_some_iff, List.getElem?_eq_some_iff,
    List.getElem_range] at made
  obtain ⟨_, ⟨_, rfl⟩, rfl⟩ := made
  rfl

theorem isKeptBy_after (schedule : Schedule ε α) (pause start count : Nat) :
    schedule.IsKeptBy pause start (schedule.after pause start count) where
  first := fun _ made => eq_span_of_getElem? made ▸ rfl
  takes := fun _ _ made => eq_span_of_getElem? made ▸ rfl
  apart := fun _ _ _ made later => eq_span_of_getElem? made ▸ eq_span_of_getElem? later ▸ rfl
  last := by
    cases count with
    | zero => rfl
    | succ last => simp [after, List.range_succ]

/-- Calls that take no time are one pause apart. -/
theorem beginning_of_instant (instant : ∀ number, schedule.duration number = 0) (number : Nat) :
    schedule.beginning pause start number = start + number * pause := by
  induction number with
  | zero => simp [beginning]
  | succ number ih => rw [beginning, ih, instant, Nat.add_zero, Nat.succ_mul, Nat.add_assoc]

theorem now_after_of_instant (instant : ∀ number, schedule.duration number = 0) (count : Nat) :
    (schedule.after pause start count).now = start + (count - 1) * pause := by
  cases count with
  | zero => simp [after]
  | succ last =>
    show schedule.beginning pause start last + schedule.duration last = _
    rw [beginning_of_instant instant, instant]
    rfl

/-! ## Timelines -/

/-- Outcomes that are given in advance, of calls that take no time. -/
def ofOutcomes (outcomes : List (Except ε α)) (fallback : Except ε α) : Schedule ε α where
  outcome number := outcomes[number]?.getD (outcomes.getLast?.getD fallback)
  duration _ := 0

/-- A timeline shows a clock: the same time, the same calls, and the outcomes still to come. -/
structure IsShownBy (schedule : Schedule ε α) (fallback : Except ε α) (timeline : Timeline ε α)
    (clock : Clock) : Prop where
  now : timeline.now = clock.now
  calls : timeline.calls.reverse = clock.calls.map (·.began)
  outcomes : ∀ number, (ofOutcomes timeline.outcomes fallback).outcome number =
    schedule.outcome (clock.calls.length + number)

/-- A call on a timeline takes the outcome of the call on the clock that it shows. -/
theorem IsShownBy.call {fallback : Except ε α} {timeline : Timeline ε α} {clock : Clock}
    (instant : ∀ number, schedule.duration number = 0)
    (shows : schedule.IsShownBy fallback timeline clock) :
    ((Timeline.call fallback).run timeline).1 = ((Clock.call schedule).run clock).1 ∧
      schedule.IsShownBy fallback ((Timeline.call fallback).run timeline).2
        ((Clock.call schedule).run clock).2 := by
  obtain ⟨now, outcomes, calls⟩ := timeline
  obtain ⟨rfl, recorded, coming⟩ := shows
  have here := coming 0
  have ahead (number : Nat) := coming (number + 1)
  -- What stays to come is what came after the outcome that is taken.
  have shown (later : List (Except ε α)) (rest : ∀ number,
      (ofOutcomes later fallback).outcome number =
        (ofOutcomes outcomes fallback).outcome (number + 1)) :
      schedule.IsShownBy fallback ⟨clock.now, later, clock.now :: calls⟩
        ((Clock.call schedule).run clock).2 := by
    constructor
    · simp [Clock.call, StateT.run, instant]
    · simp [Clock.call, StateT.run, ← recorded]
    · intro number
      rw [rest, coming]
      simp [Clock.call, StateT.run, Nat.add_assoc, Nat.add_comm 1]
  match outcomes with
  | [] => exact ⟨here, shown [] fun _ => rfl⟩
  | [outcome] => exact ⟨here, shown [outcome] fun number => by cases number <;> simp [ofOutcomes]⟩
  | outcome :: later :: rest =>
    exact ⟨here, shown (later :: rest) fun number => by simp [ofOutcomes]⟩

/-- The report of a run is what the clock says of it. -/
theorem report_eq (policy : Policy) (operation : String) (outcomes : List (Except ε α))
    (fallback : Except ε α) :
    let run := (attempt policy operation Clock.pause
      (Clock.call (ofOutcomes outcomes fallback))).run ⟨0, []⟩
    report policy operation outcomes fallback =
      ⟨run.1, run.2.calls.map (·.began), run.2.now⟩ := by
  intro run
  have start : (ofOutcomes outcomes fallback).IsShownBy fallback ⟨0, outcomes, []⟩ ⟨0, []⟩ :=
    ⟨rfl, rfl, fun number => by rw [List.length_nil, Nat.zero_add]⟩
  let timeline := (attempt policy operation Timeline.pause (Timeline.call fallback)).run
    ⟨0, outcomes, []⟩
  obtain ⟨result, shows⟩ : timeline.1 = run.1 ∧
      (ofOutcomes outcomes fallback).IsShownBy fallback timeline.2 run.2 :=
    attemptsLeft_of_corresponding (fun _ _ shows => shows.call fun _ => rfl)
      (fun _ _ shows => ⟨congrArg (· + policy.pause) shows.now, shows.calls, shows.outcomes⟩)
      policy.attempts start
  rw [← result, ← shows.now, ← shows.calls]
  rfl

end Schedule

/-! ## What retries come to -/

variable {ε α : Type}

/-- **Attempts meet their specification.** Under a policy of no attempts the operation is not
called. Otherwise, if it succeeds within the attempts of the policy, it is called up to its first
success, which is the result, and else as often as the policy allows, and the result tells the last
fault. A call begins one pause after the one before it has returned, and nothing is waited for after
the last one; so calls that take no time make for as many pauses as there are calls but one. A
report on outcomes given in advance is the record of such calls. A reconnect, with any peer, dials
in this way once what was held is closed: it holds the connection of its first dial that succeeds,
or reports that no attempt or all attempts have failed. -/
theorem attempts_meet_specification (policy : Policy) (operation : String)
    (schedule : Schedule ε α) (start : Nat) :
    let run := (attempt policy operation Clock.pause (Clock.call schedule)).run ⟨start, []⟩
    let calls := run.2.calls
    (policy.attempts = 0 → run = (.error (.notAttempted operation), ⟨start, []⟩)) ∧
    (∀ number value, number < policy.attempts →
      (∀ n < number, ∃ cause, schedule.outcome n = .error cause) →
      schedule.outcome number = .ok value →
      run.1 = .ok value ∧ calls.length = number + 1) ∧
    (∀ number last, policy.attempts = number + 1 →
      (∀ n < number, ∃ cause, schedule.outcome n = .error cause) →
      schedule.outcome number = .error last →
      run.1 = .error (.exhausted operation policy.attempts last) ∧
        calls.length = policy.attempts) ∧
    schedule.IsKeptBy policy.pause start run.2 ∧
    ((∀ number, schedule.duration number = 0) →
      run.2.now = start + (calls.length - 1) * policy.pause) ∧
    (∀ outcomes fallback, schedule = .ofOutcomes outcomes fallback → start = 0 →
      report policy operation outcomes fallback = ⟨run.1, calls.map (·.began), run.2.now⟩) ∧
    ∀ (τ κ σ ρ : Type) (peer : Amqp.Peer (StateM τ) κ σ ρ) (client : Amqp.Client κ) (state : τ),
      let attempts := client.settings.connectAttempts
      let dial := peer.dial client.settings
      let released := ((client.release peer).run state).2
      let dialing number :=
        (Retry.next client.settings.retryPolicy peer.pause dial)^[number] released
      let reconnected := (client.reconnect peer).run state
      (attempts = 0 → reconnected =
        ((.error (.exhausted 0 "no connection attempts configured"), { client with held := none }),
          released)) ∧
      (∀ number connection after, number < attempts →
        (∀ n < number, ∃ cause, (dial.run (dialing n)).1 = .error cause) →
        dial.run (dialing number) = (.ok connection, after) →
        reconnected = ((.ok (), { client with held := some connection }), after)) ∧
      ∀ number last after, attempts = number + 1 →
        (∀ n < number, ∃ cause, (dial.run (dialing n)).1 = .error cause) →
        dial.run (dialing number) = (.error last, after) →
        reconnected = ((.error (.exhausted attempts (QueueFault.connect last).message),
          { client with held := none }), after) := by
  intro run calls
  have cases := Schedule.run_cases policy operation schedule start
  have kept : ∃ count, run.2 = schedule.after policy.pause start count := by
    rcases cases with ⟨_, ran⟩ | ⟨number, _, _, _, _, ran⟩ | ⟨number, _, _, _, _, ran⟩
    · exact ⟨0, congrArg Prod.snd ran⟩
    · exact ⟨number + 1, congrArg Prod.snd ran⟩
    · exact ⟨number + 1, congrArg Prod.snd ran⟩
  obtain ⟨count, clock⟩ := kept
  refine ⟨fun none => attempt_of_no_attempts none _, ?succeeds, ?fails, ?kept, ?instant, ?report,
    ?reconnect⟩
  case succeeds =>
    intro number value within fail succeeds
    have ran : run = _ := Schedule.run_of_first_ok operation within fail succeeds
    exact ⟨congrArg Prod.fst ran, by simp [calls, ran]⟩
  case fails =>
    intro number last all fail fails
    have ran : run = _ := Schedule.run_of_all_error operation all fail fails
    exact ⟨congrArg Prod.fst ran, by simp [calls, ran, all]⟩
  case kept =>
    rw [clock]
    exact Schedule.isKeptBy_after schedule policy.pause start count
  case instant =>
    intro instant
    simp only [calls, clock, Schedule.length_calls_after]
    exact Schedule.now_after_of_instant instant count
  case report =>
    rintro outcomes fallback rfl rfl
    exact Schedule.report_eq policy operation outcomes fallback
  case reconnect =>
    intro τ κ σ ρ peer client state attempts dial released dialing reconnected
    refine ⟨fun none => ?_, fun number connection after within fail succeeds => ?_,
      fun number last after all fail fails => ?_⟩
    · exact client.run_reconnect_of_dialed peer (attempt_of_no_attempts none released)
    · exact client.run_reconnect_of_dialed peer (attemptsLeft_of_first_ok within fail succeeds)
    · exact client.run_reconnect_of_dialed peer (attempt_of_all_error all fail fails)

end Turnstile.Retry
