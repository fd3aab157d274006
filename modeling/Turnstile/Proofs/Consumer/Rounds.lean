import Mathlib.Data.List.Basic
import Turnstile.Proofs.Consumer.Lives

/-!
# The rounds of a loop

In a round a loop opens a reader, takes messages from it until it fails or the token of the loop is
cancelled, and closes it. The closing is over when the reader has replied, whatever it replies, or
when the time is up that it is given. A `TimedLoop` is a loop with a clock for that; everything else
comes in at any time.

Every reader is closed once, before another one is opened and before the loop ends. A reader that
fails is closed with no message of it left to acknowledge, and the loop begins another round, or
ends if it is cancelled. If no reader can be opened this is reported, once, and the loop does
nothing more; nothing else is ever reported (`TimedLoop.readers_are_closed_once`).
-/

set_option autoImplicit false

namespace Turnstile.Consumer

variable {ρ μ : Type}

/-! ## Readers that are opened and closed -/

namespace Occurrence

/-- The reader that is opened. -/
def opened? : Occurrence ρ μ → Option ρ
  | took (.opened (.ok reader)) => some reader
  | _ => none

/-- The reader that is asked to close. -/
def closing? : Occurrence ρ μ → Option ρ
  | called (.close reader) => some reader
  | _ => none

/-- Whether a closing is over. -/
def isClosed : Occurrence ρ μ → Bool
  | took (.closed _) => true
  | _ => false

/-- The fault that is reported. -/
def reported? : Occurrence ρ μ → Option QueueFault
  | called (.report fault) => some fault
  | _ => none

end Occurrence

/-- The reader that is being closed. -/
def Stage.closing? : Stage ρ μ → Option ρ
  | closing reader _ => some reader
  | _ => none

/-- The readers of a loop. Some have been closed: they were asked to once, in the order in which
they were opened, and the closing of each is over. The only other one is that which the stage
holds. -/
structure Keeps (stage : Stage ρ μ) (trace : List (Occurrence ρ μ)) (closed : List ρ) : Prop where
  opened : trace.filterMap (·.opened?) = closed ++ stage.reader?.toList
  asked : trace.filterMap (·.closing?) = closed ++ stage.closing?.toList
  ended : trace.countP (·.isClosed) = closed.length

/-- Every reader that was opened has been closed: all were asked to once, in the order in which they
were opened, and every closing is over. -/
structure IsClosedUp (trace : List (Occurrence ρ μ)) : Prop where
  asked : trace.filterMap (·.closing?) = trace.filterMap (·.opened?)
  ended : trace.countP (·.isClosed) = (trace.filterMap (·.opened?)).length

/-- The reader that a stage holds, or that comes in, is held after the move, unless its closing is
over by it. -/
theorem Move.exists_closed {stage later : Stage ρ μ} {input : Input ρ μ}
    (move : Move stage input later) :
    ∃ closed : List ρ,
      stage.reader?.toList ++ (later.entry input).filterMap (·.opened?) =
        closed ++ later.reader?.toList ∧
      stage.closing?.toList ++ (later.entry input).filterMap (·.closing?) =
        closed ++ later.closing?.toList ∧
      (later.entry input).countP (·.isClosed) = closed.length := by
  cases move with
  | began isCancelled => cases isCancelled <;> exact ⟨[], rfl, rfl, rfl⟩
  | closed reader resumes isCancelled =>
    cases resumes <;> cases isCancelled <;> exact ⟨[reader], rfl, rfl, rfl⟩
  | _ => exact ⟨[], rfl, rfl, rfl⟩

/-- The readers of a loop are opened and closed in turn. -/
def InTurn (stage : Stage ρ μ) (trace : List (Occurrence ρ μ)) : Prop :=
  ∃ closed, Keeps stage trace closed

namespace InTurn

variable {stage later : Stage ρ μ} {input : Input ρ μ} {trace : List (Occurrence ρ μ)}

theorem start : InTurn (.idle : Stage ρ μ) [] := ⟨[], rfl, rfl, rfl⟩

theorem step (inTurn : InTurn stage trace) (move : Move stage input later) :
    InTurn later (trace ++ later.entry input) := by
  obtain ⟨closed, opened, asked, ended⟩ := inTurn
  obtain ⟨more, openedToo, askedToo, endedToo⟩ := move.exists_closed
  refine ⟨closed ++ more, ?_, ?_, ?_⟩
  · rw [List.filterMap_append, opened, List.append_assoc, openedToo, List.append_assoc]
  · rw [List.filterMap_append, asked, List.append_assoc, askedToo, List.append_assoc]
  · rw [List.countP_append, ended, endedToo, List.length_append]

/-- One reader at most is open at a time. -/
theorem opened_le (inTurn : InTurn stage trace) :
    (trace.filterMap (·.opened?)).length ≤ trace.countP (·.isClosed) + 1 := by
  obtain ⟨closed, keeps⟩ := inTurn
  have held : stage.reader?.toList.length ≤ 1 := by
    cases stage.reader? <;> simp
  rw [keeps.opened, keeps.ended, List.length_append]
  omega

/-- If the stage holds no reader, all have been closed. -/
theorem isClosedUp (inTurn : InTurn stage trace) (none : stage.reader? = none) :
    IsClosedUp trace := by
  obtain ⟨closed, keeps⟩ := inTurn
  have notClosing : stage.closing? = .none := by
    cases stage <;> first | rfl | cases none
  have all : trace.filterMap (·.opened?) = closed := by simp [keeps.opened, none]
  exact ⟨by simp [all, keeps.asked, notClosing], by rw [all, keeps.ended]⟩

end InTurn

/-! ## How a loop leaves a reader -/

/-- What follows when a reader fails: it is asked to close, and when that is over the loop ends, if
it is cancelled, or asks for a reader again. -/
inductive Reopens (reader : ρ) : Stage ρ μ → List (Occurrence ρ μ) → Prop where
  | closing : Reopens reader (.closing reader true) [.called (.close reader)]
  | exited : Reopens reader (.exited none) [.called (.close reader), .took (.closed true)]
  | reopened (stage : Stage ρ μ) (rest : List (Occurrence ρ μ)) :
    Reopens reader stage
      (.called (.close reader) :: .took (.closed false) :: .called .openReader :: rest)

theorem Reopens.step {reader : ρ} {stage later : Stage ρ μ} {input : Input ρ μ}
    {after : List (Occurrence ρ μ)} (reopens : Reopens reader stage after)
    (move : Move stage input later) : Reopens reader later (after ++ later.entry input) := by
  cases reopens with
  | closing =>
    cases move with
    | closed _ _ isCancelled =>
      cases isCancelled
      · exact .reopened _ []
      · exact .exited
  | exited => cases move
  | reopened _ rest => exact .reopened _ (rest ++ later.entry input)

/-- The fault with which a loop has ended. -/
def Stage.fault? : Stage ρ μ → Option QueueFault
  | exited fault => fault
  | _ => none

/-- A fault is reported when the loop ends with it. -/
theorem Move.reported_entry {stage later : Stage ρ μ} {input : Input ρ μ}
    (move : Move stage input later) :
    stage.fault? = none ∧ (later.entry input).filterMap (·.reported?) = later.fault?.toList := by
  cases move with
  | began isCancelled => cases isCancelled <;> exact ⟨rfl, rfl⟩
  | closed reader resumes isCancelled =>
    cases resumes <;> cases isCancelled <;> exact ⟨rfl, rfl⟩
  | _ => exact ⟨rfl, rfl⟩

/-- Whether a loop ends, or has ended, since it is cancelled. -/
def Stage.isLeaving : Stage ρ μ → Bool
  | closing _ false => true
  | exited none => true
  | _ => false

/-- A loop leaves if its token is cancelled. -/
theorem Move.isLeaving_cases {stage later : Stage ρ μ} {input : Input ρ μ}
    (move : Move stage input later) (leaving : later.isLeaving) :
    stage.isLeaving ∨ ∀ isCancelled, input.agrees isCancelled → isCancelled = true := by
  cases move with
  | began isCancelled => cases isCancelled <;> simp_all [Stage.begin, Stage.isLeaving, Input.agrees]
  | closed reader resumes isCancelled =>
    cases resumes with
    | false => exact .inl rfl
    | true => cases isCancelled <;> simp_all [Stage.begin, Stage.isLeaving, Input.agrees]
  | leaveOpening => exact .inr fun _ agrees => agrees
  | leaveReading => exact .inr fun _ agrees => agrees
  | leaveInspecting => exact .inr fun _ agrees => agrees
  | leaveAwaiting => exact .inr fun _ agrees => agrees
  | _ => cases leaving

namespace Loop

theorem reported_run (isCancelled : Bool) (actions : List (Action ρ μ)) :
    (run isCancelled actions).trace.filterMap (·.reported?) =
      (run isCancelled actions).stage.fault?.toList := by
  let reported := fun (stage : Stage ρ μ) (trace : List (Occurrence ρ μ)) =>
    trace.filterMap (·.reported?) = stage.fault?.toList
  suffices kept : reported (run isCancelled actions).stage (run isCancelled actions).trace from kept
  refine run_induction rfl ?_ isCancelled actions
  intro stage trace input later before move
  obtain ⟨unfaulted, entry⟩ := move.reported_entry
  change (trace ++ later.entry input).filterMap (·.reported?) = later.fault?.toList
  rw [List.filterMap_append, before, unfaulted, entry]
  rfl

theorem isCancelled_of_isLeaving (isCancelled : Bool) (actions : List (Action ρ μ))
    (leaving : (run isCancelled actions).stage.isLeaving) :
    (run isCancelled actions).isCancelled = true := by
  induction actions using List.reverseRecOn with
  | nil => cases leaving
  | append_singleton earlier action ih =>
    rw [run, List.foldl_append, List.foldl_cons, List.foldl_nil] at leaving ⊢
    change ((run isCancelled earlier).act action).stage.isLeaving at leaving
    change ((run isCancelled earlier).act action).isCancelled = true
    rcases (run isCancelled earlier).act_cases action with
      same | cancelled | ⟨input, stage, agrees, move, entered⟩
    · rw [same] at leaving ⊢
      exact ih leaving
    · rw [cancelled]
    · rw [entered] at leaving ⊢
      rcases move.isLeaving_cases leaving with before | seen
      · exact ih before
      · exact seen _ agrees

/-- When a reader fails, all messages have been acknowledged, and those that are acknowledged later
come in later. -/
theorem reopens_of_failed {isCancelled : Bool} {actions : List (Action ρ μ)}
    {before after : List (Occurrence ρ μ)} {fault : QueueFault}
    (split : (run isCancelled actions).trace =
      before ++ .took (.received (.error fault)) :: after) :
    before.filterMap (·.received?) = before.filterMap (·.acknowledged?) ∧
      after.filterMap (·.acknowledged?) <+: after.filterMap (·.received?) ∧
      ∃ reader, (before.filterMap (·.opened?)).getLast? = some reader ∧
        Reopens reader (run isCancelled actions).stage after := by
  let kept := fun (stage : Stage ρ μ) (trace : List (Occurrence ρ μ)) =>
    Leaves stage trace ∧ InTurn stage trace
  let follows := fun (first stage : Stage ρ μ) (after : List (Occurrence ρ μ)) =>
    ∀ reader, first = .reading reader → Reopens reader stage after
  have begins : ∀ {first later : Stage ρ μ}, Move first (.received (.error fault)) later →
      follows first later (later.call?.map .called).toList := by
    rintro _ later move reader rfl
    cases move
    exact .closing
  obtain ⟨first, later, failed, ⟨⟨left, leaves, counts⟩, closed, keeps⟩, followed⟩ :=
    exists_of_took kept follows ⟨⟨none, rfl, rfl⟩, .start⟩
      (fun held move => ⟨held.1.step move, held.2.step move⟩) begins
      (fun followed move reader isReading => (followed reader isReading).step move) split
  cases failed with
  | failed reader =>
    obtain rfl : left = none := leaves
    have settled : before.filterMap (·.received?) = before.filterMap (·.acknowledged?) := by
      simpa using counts
    refine ⟨settled, ?_, reader, ?_, followed reader rfl⟩
    · obtain ⟨left, _, counts⟩ : Leaves (run isCancelled actions).stage
          (run isCancelled actions).trace :=
        run_induction ⟨none, rfl, rfl⟩ .step isCancelled actions
      rw [split, List.filterMap_append, List.filterMap_append, settled, List.append_assoc] at counts
      exact ⟨left.toList, (List.append_cancel_left counts).symm⟩
    · rw [keeps.opened]
      exact List.getLast?_concat

/-- If no reader can be opened, this is reported and the loop has ended. -/
theorem exited_of_unopened {isCancelled : Bool} {actions : List (Action ρ μ)}
    {before after : List (Occurrence ρ μ)} {fault : QueueFault}
    (split : (run isCancelled actions).trace =
      before ++ .took (.opened (.error fault)) :: after) :
    after = [.called (.report fault)] ∧ (run isCancelled actions).stage = .exited (some fault) := by
  let follows := fun (_ stage : Stage ρ μ) (after : List (Occurrence ρ μ)) =>
    after = [.called (.report fault)] ∧ stage = .exited (some fault)
  have begins : ∀ {first later : Stage ρ μ}, Move first (.opened (.error fault)) later →
      follows first later (later.call?.map .called).toList := by
    intro first later move
    cases move
    exact ⟨rfl, rfl⟩
  have stays : ∀ {next : Input ρ μ} {later : Stage ρ μ}, ¬Move (.exited (some fault)) next later :=
    nofun
  obtain ⟨_, _, _, _, followed⟩ :=
    exists_of_took (fun _ _ => True) follows trivial (fun _ _ => trivial) begins
      (fun followed move => absurd (followed.2 ▸ move) stays) split
  exact followed

/-- Before a reader is asked for, all that were opened have been closed. -/
theorem isClosedUp_of_opening {isCancelled : Bool} {actions : List (Action ρ μ)}
    {before after : List (Occurrence ρ μ)}
    (split : (run isCancelled actions).trace = before ++ .called .openReader :: after) :
    IsClosedUp before := by
  obtain ⟨stage, opening, inTurn⟩ : ∃ stage : Stage ρ μ, stage.call? = some .openReader ∧
      InTurn stage (before ++ [.called .openReader]) := exists_of_called .start .step split
  have none : stage.reader? = none := by
    cases stage <;> first | rfl | cases opening
  obtain ⟨asked, ended⟩ := inTurn.isClosedUp none
  simp only [List.filterMap_append, List.countP_append] at asked ended
  exact ⟨by simpa [List.filterMap, Occurrence.closing?, Occurrence.opened?] using asked,
    by simpa [List.filterMap, Occurrence.opened?, Occurrence.isClosed] using ended⟩

/-- What the loop of a kind and a project has reported. -/
def reports (loop : Loop ρ μ) (kind : WorkKind) (project : ProjectId) : List FatalFault :=
  (loop.trace.filterMap (·.reported?)).map (.queueConnect (kind.queueName project.text))

/-- A loop reports the fault with which it has ended. -/
theorem reports_run (isCancelled : Bool) (actions : List (Action ρ μ)) (kind : WorkKind)
    (project : ProjectId) :
    (run isCancelled actions).reports kind project =
      (run isCancelled actions).stage.fault?.toList.map
        (.queueConnect (kind.queueName project.text)) := by
  rw [reports, reported_run]

end Loop

/-! ## The time for closing -/

/-- A loop with a clock. -/
structure TimedLoop (ρ μ : Type) where
  loop : Loop ρ μ
  now : Nat
  /-- While a reader is being closed, when it was asked to. -/
  askedAt : Nat

namespace TimedLoop

/-- What can happen to a loop with a clock. -/
inductive Action (ρ μ : Type) where
  /-- Cancel its token. -/
  | cancel
  /-- A unit of time passes. -/
  | pass
  /-- Something comes in; only that a closing is over does not come in like this. -/
  | take (input : Input ρ μ)
  /-- The reader replies to the call that closes it. -/
  | replied (result : Except QueueFault Unit)

/-- A loop at its start. -/
def start (isCancelled : Bool) : TimedLoop ρ μ := ⟨.start isCancelled, 0, 0⟩

/-- Something happens to the loop. As long as a reader is being closed, `askedAt` stays. -/
def goOn (timed : TimedLoop ρ μ) (action : Consumer.Action ρ μ) : TimedLoop ρ μ where
  loop := timed.loop.act action
  now := timed.now
  askedAt := if timed.loop.stage.closing?.isSome then timed.askedAt else timed.now

/-- The closing of the reader is over; if there is none, nothing happens. -/
def endClosing (timed : TimedLoop ρ μ) : TimedLoop ρ μ :=
  timed.goOn (.take (.closed timed.loop.isCancelled))

/-- The loop after an action. The result of a closing does not matter, and one that takes as long as
the timeout is given up. -/
def act (timeout : Nat) (timed : TimedLoop ρ μ) : Action ρ μ → TimedLoop ρ μ
  | .cancel => timed.goOn .cancel
  | .take (.closed _) => timed
  | .take input => timed.goOn (.take input)
  | .replied _ => timed.endClosing
  | .pass =>
    let later := { timed with now := timed.now + 1 }
    if timed.loop.stage.closing?.isSome && timed.askedAt + timeout ≤ later.now then
      later.endClosing
    else later

/-- The loop after a list of actions. -/
def run (timeout : Nat) (isCancelled : Bool) (actions : List (Action ρ μ)) : TimedLoop ρ μ :=
  actions.foldl (act timeout) (start isCancelled)

theorem run_snoc (timeout : Nat) (isCancelled : Bool) (earlier : List (Action ρ μ))
    (action : Action ρ μ) :
    run timeout isCancelled (earlier ++ [action]) =
      (run timeout isCancelled earlier).act timeout action :=
  List.foldl_concat _ _ _ _

theorem closing?_endClosing {timed : TimedLoop ρ μ}
    (closing : timed.loop.stage.closing?.isSome) :
    timed.endClosing.loop.stage.closing? = none := by
  cases stage : timed.loop.stage with
  | closing reader resumes =>
    have next : timed.loop.stage.next? (.closed timed.loop.isCancelled) =
        some (.begin (!resumes || timed.loop.isCancelled)) := by rw [stage]; rfl
    simp only [endClosing, goOn, Loop.act, next, Input.agrees, beq_self_eq_true, if_true,
      Loop.enter]
    cases (!resumes || timed.loop.isCancelled) <;> rfl
  | _ => simp [stage, Stage.closing?] at closing

/-- Something happens to the loop, or time passes at most; a closing that goes on then is not
due. -/
theorem act_cases (timeout : Nat) (timed : TimedLoop ρ μ) (action : Action ρ μ) :
    let later := { timed with now := timed.now + 1 }
    timed.act timeout action = timed ∨
    (∃ plain, timed.act timeout action = timed.goOn plain) ∨
    (timed.act timeout action = later ∧
      (timed.loop.stage.closing?.isSome → later.now < timed.askedAt + timeout)) ∨
    (timed.act timeout action = later.endClosing ∧ timed.loop.stage.closing?.isSome) := by
  intro later
  match action with
  | .cancel => exact .inr (.inl ⟨.cancel, rfl⟩)
  | .replied _ => exact .inr (.inl ⟨.take (.closed timed.loop.isCancelled), rfl⟩)
  | .pass =>
    by_cases due : (timed.loop.stage.closing?.isSome && timed.askedAt + timeout ≤ later.now) = true
    · exact .inr (.inr (.inr ⟨if_pos due, (Bool.and_eq_true_iff.1 due).1⟩))
    · refine .inr (.inr (.inl ⟨if_neg due, fun closing => ?_⟩))
      rw [closing, Bool.true_and, decide_eq_true_eq] at due
      exact Nat.lt_of_not_le due
  | .take input =>
    cases input with
    | closed => exact .inl rfl
    | _ => exact .inr (.inl ⟨.take _, rfl⟩)

/-- With its clock a loop does what it does without. -/
theorem exists_loop_run (timeout : Nat) (isCancelled : Bool) (actions : List (Action ρ μ)) :
    ∃ plain, (run timeout isCancelled actions).loop = Loop.run isCancelled plain := by
  induction actions using List.reverseRecOn with
  | nil => exact ⟨[], rfl⟩
  | append_singleton earlier action ih =>
    obtain ⟨plain, before⟩ := ih
    have further : ∀ next, (Loop.run isCancelled plain).act next =
        Loop.run isCancelled (plain ++ [next]) :=
      fun next => (List.foldl_concat _ _ _ _).symm
    rw [run_snoc]
    rcases act_cases timeout (run timeout isCancelled earlier) action with
      same | ⟨next, acted⟩ | ⟨passed, _⟩ | ⟨ended, _⟩
    · exact ⟨plain, by rw [same, before]⟩
    · exact ⟨plain ++ [next], by rw [acted, goOn, before, further]⟩
    · exact ⟨plain, by rw [passed, before]⟩
    · exact ⟨plain ++ [_], by rw [ended, endClosing, goOn, before, further]⟩

/-- No closing takes longer than the timeout. -/
theorem closing_run (timeout : Nat) (isCancelled : Bool) (actions : List (Action ρ μ))
    (closing : (run timeout isCancelled actions).loop.stage.closing?.isSome) :
    (run timeout isCancelled actions).now <
      (run timeout isCancelled actions).askedAt + max 1 timeout := by
  induction actions using List.reverseRecOn with
  | nil => cases closing
  | append_singleton earlier action ih =>
    rw [run_snoc] at closing ⊢
    rcases act_cases timeout (run timeout isCancelled earlier) action with
      same | ⟨next, acted⟩ | ⟨passed, inTime⟩ | ⟨ended, wasClosing⟩
    · rw [same] at closing ⊢
      exact ih closing
    · rw [acted]
      simp only [goOn]
      split
      case isTrue before => exact ih before
      -- the closing, if there is one, has begun now
      case isFalse => omega
    · rw [passed] at closing ⊢
      have before := inTime closing
      simp only at before ⊢
      omega
    · rw [ended, closing?_endClosing] at closing
      · cases closing
      · exact wasClosing

/-- **Every reader is closed once, in its round.** In every run, of the readers that were opened all
but the one that the stage holds have been closed, so one at most is open. Each was asked to close
once, and before another reader is asked for, and when the loop ends, all closings are over. None
takes longer than the timeout.

When a reader fails, every message that had come in has been acknowledged, and what is acknowledged
later comes in later; the reader is closed, and then another one is asked for or, if the loop is
cancelled, it ends. When a reader cannot be opened, the loop reports it, with the name of its queue,
and does nothing else any more. It reports nothing otherwise; in particular not when it ends because
it is cancelled. -/
theorem readers_are_closed_once (kind : WorkKind) (project : ProjectId) (timeout : Nat)
    (isCancelled : Bool) (actions : List (Action ρ μ)) :
    let timed := run timeout isCancelled actions
    let stage := timed.loop.stage
    let trace := timed.loop.trace
    InTurn stage trace ∧
    (trace.filterMap (·.opened?)).length ≤ trace.countP (·.isClosed) + 1 ∧
    (∀ before after, trace = before ++ .called .openReader :: after → IsClosedUp before) ∧
    (stage.isOver → IsClosedUp trace) ∧
    (stage.closing?.isSome → timed.now < timed.askedAt + max 1 timeout) ∧
    (∀ before fault after, trace = before ++ .took (.received (.error fault)) :: after →
      before.filterMap (·.received?) = before.filterMap (·.acknowledged?) ∧
      after.filterMap (·.acknowledged?) <+: after.filterMap (·.received?) ∧
      ∃ reader, (before.filterMap (·.opened?)).getLast? = some reader ∧
        Reopens reader stage after) ∧
    (∀ before fault after, trace = before ++ .took (.opened (.error fault)) :: after →
      after = [.called (.report fault)] ∧ stage = .exited (some fault) ∧
      timed.loop.reports kind project = [.queueConnect (kind.queueName project.text) fault]) ∧
    (stage = .exited none →
      timed.loop.isCancelled = true ∧ timed.loop.reports kind project = []) := by
  intro timed stage trace
  obtain ⟨plain, loop_eq⟩ := exists_loop_run timeout isCancelled actions
  change timed.loop = Loop.run isCancelled plain at loop_eq
  have inTurn : InTurn stage trace := by
    have kept : InTurn (Loop.run isCancelled plain).stage (Loop.run isCancelled plain).trace :=
      Loop.run_induction .start .step isCancelled plain
    rwa [← loop_eq] at kept
  have reports : timed.loop.reports kind project =
      stage.fault?.toList.map (.queueConnect (kind.queueName project.text)) := by
    simp only [stage, loop_eq, Loop.reports_run]
  refine ⟨inTurn, inTurn.opened_le, ?_, ?_, closing_run timeout isCancelled actions, ?_, ?_, ?_⟩
  · intro before after split
    simp only [trace, loop_eq] at split
    exact Loop.isClosedUp_of_opening split
  · intro ended
    refine inTurn.isClosedUp ?_
    cases stage_eq : stage with
    | exited fault => rfl
    | _ => simp [stage_eq, Stage.isOver] at ended
  · intro before fault after split
    simp only [stage, trace, loop_eq] at split ⊢
    exact Loop.reopens_of_failed split
  · intro before fault after split
    simp only [trace, loop_eq] at split
    obtain ⟨alone, exited⟩ := Loop.exited_of_unopened split
    rw [← loop_eq] at exited
    refine ⟨alone, exited, ?_⟩
    rw [reports]
    simp only [stage, exited]
    rfl
  · intro exited
    refine ⟨?_, ?_⟩
    · simp only [stage, loop_eq] at exited ⊢
      exact Loop.isCancelled_of_isLeaving isCancelled plain (by rw [exited]; rfl)
    · rw [reports, exited]
      rfl

/-- A reader that fails and does not reply to the call that closes it is given up, and another one
is asked for. -/
example : (run 2 false [.take (.began false), .take (.opened (.ok ())),
    .take (.received (.error (.receive "workers.p" "broken"))), .pass, .pass] :
      TimedLoop Unit String).loop.stage = .opening := rfl

end TimedLoop

end Turnstile.Consumer
