import Mathlib.Data.List.Induction
import Turnstile.Consumer

/-!
# Runs of a consumer loop

A consumer loop is driven by what happens to it: replies to its calls, admissions, and the
cancellation of its token, which can come at any time. Nothing is assumed about the queue, about
those who inspect messages and start work, or about when anything comes, so a run is given by any
list of **actions** (`Loop.run`). An action that does not fit is passed over. In particular a wait
is only given up once the token is cancelled, and a loop that looks at its token sees what it is
at that moment.

The **trace** of a loop holds the inputs it took and the calls it made, in order. Whatever is called
was called on coming to a stage (`Loop.exists_of_called`).
-/

set_option autoImplicit false

namespace Turnstile.Consumer

variable {ρ μ : Type}

/-! ## Traces -/

/-- What can be seen of a loop. -/
inductive Occurrence (ρ μ : Type) where
  | called (call : Call ρ μ)
  | took (input : Input ρ μ)

namespace Occurrence

/-- The message that comes in. -/
def received? : Occurrence ρ μ → Option μ
  | took (.received (.ok message)) => some message
  | _ => none

/-- The message that is acknowledged. -/
def acknowledged? : Occurrence ρ μ → Option μ
  | called (.acknowledge message) => some message
  | _ => none

end Occurrence

/-- What is seen when a stage is entered by an input. -/
def Stage.entry (stage : Stage ρ μ) (input : Input ρ μ) : List (Occurrence ρ μ) :=
  .took input :: (stage.call?.map .called).toList

/-- An occurrence in a longer trace was there before or is in what was added. -/
theorem split_append {trace more before after : List (Occurrence ρ μ)}
    {occurrence : Occurrence ρ μ} (split : trace ++ more = before ++ occurrence :: after) :
    (∃ middle, trace = before ++ occurrence :: middle ∧ after = middle ++ more) ∨
    ∃ middle, before = trace ++ middle ∧ more = middle ++ occurrence :: after := by
  rcases List.append_eq_append_iff.1 split with ⟨middle, added, rest⟩ | ⟨middle, kept, rest⟩
  · exact .inr ⟨middle, added, rest⟩
  · cases middle with
    | nil => exact .inr ⟨[], by simpa using kept.symm, by simpa using rest.symm⟩
    | cons first middle =>
      obtain ⟨rfl, rfl⟩ := List.cons.inj rest
      exact .inl ⟨middle, kept, rfl⟩

/-- An occurrence in an entry is the input or the call. -/
theorem Stage.split_entry {stage : Stage ρ μ} {input : Input ρ μ}
    {before after : List (Occurrence ρ μ)} {occurrence : Occurrence ρ μ}
    (split : stage.entry input = before ++ occurrence :: after) :
    (before = [] ∧ occurrence = .took input ∧ after = (stage.call?.map .called).toList) ∨
    ∃ call, stage.call? = some call ∧ before = [.took input] ∧ occurrence = .called call ∧
      after = [] := by
  cases before with
  | nil =>
    obtain ⟨first, rest⟩ := List.cons.inj split
    exact .inl ⟨rfl, first.symm, rest.symm⟩
  | cons first before =>
    obtain ⟨rfl, rest⟩ := List.cons.inj split
    cases made : stage.call? with
    | none => simp [made] at rest
    | some call =>
      have alone : [.called call] = before ++ occurrence :: after := by simpa [made] using rest
      cases before with
      | nil =>
        obtain ⟨rfl, rfl⟩ := List.cons.inj alone
        exact .inr ⟨call, rfl, rfl, rfl, rfl⟩
      | cons second before => simp at alone

/-! ## Moves -/

/-- The moves of a loop: a stage, an input that it takes, and the stage that it leads to. -/
inductive Move : Stage ρ μ → Input ρ μ → Stage ρ μ → Prop where
  | began (isCancelled : Bool) : Move .idle (.began isCancelled) (.begin isCancelled)
  | opened (reader : ρ) : Move .opening (.opened (.ok reader)) (.reading reader)
  | unopened (fault : QueueFault) : Move .opening (.opened (.error fault)) (.exited (some fault))
  | leaveOpening : Move .opening .cancelled (.exited none)
  | received (reader : ρ) (message : μ) :
    Move (.reading reader) (.received (.ok message)) (.inspecting reader message)
  | failed (reader : ρ) (fault : QueueFault) :
    Move (.reading reader) (.received (.error fault)) (.closing reader true)
  | leaveReading (reader : ρ) : Move (.reading reader) .cancelled (.closing reader false)
  | discarded (reader : ρ) (message : μ) :
    Move (.inspecting reader message) (.inspected .discard) (.acknowledging reader message)
  | wanted (reader : ρ) (message : μ) (work : Work) :
    Move (.inspecting reader message) (.inspected (.dispatch work)) (.awaiting reader message work)
  | leaveInspecting (reader : ρ) (message : μ) :
    Move (.inspecting reader message) .cancelled (.closing reader false)
  | admitted (reader : ρ) (message : μ) (work : Work) :
    Move (.awaiting reader message work) .admitted (.dispatching reader message work)
  | leaveAwaiting (reader : ρ) (message : μ) (work : Work) :
    Move (.awaiting reader message work) .cancelled (.closing reader false)
  | dispatched (reader : ρ) (message : μ) (work : Work) :
    Move (.dispatching reader message work) .dispatched (.acknowledging reader message)
  | acknowledged (reader : ρ) (message : μ) :
    Move (.acknowledging reader message) .acknowledged (.reading reader)
  | closed (reader : ρ) (resumes isCancelled : Bool) :
    Move (.closing reader resumes) (.closed isCancelled) (.begin (!resumes || isCancelled))

theorem Move.of_next? {stage later : Stage ρ μ} {input : Input ρ μ}
    (next : stage.next? input = some later) : Move stage input later := by
  simp only [Stage.next?] at next
  split at next <;> cases next <;> constructor

/-! ## Loops -/

/-- A loop: its stage, whether its token is cancelled, and what it has been through. -/
structure Loop (ρ μ : Type) where
  stage : Stage ρ μ
  isCancelled : Bool
  trace : List (Occurrence ρ μ)

/-- What can be done to a loop. -/
inductive Action (ρ μ : Type) where
  /-- Cancel its token. -/
  | cancel
  | take (input : Input ρ μ)

/-- Whether an input can come while the token is cancelled, or is not. -/
def Input.agrees (isCancelled : Bool) : Input ρ μ → Bool
  | began seen => seen == isCancelled
  | closed seen => seen == isCancelled
  | cancelled => isCancelled
  | _ => true

namespace Loop

/-- A loop at its start. -/
def start (isCancelled : Bool) : Loop ρ μ := ⟨.idle, isCancelled, []⟩

/-- The loop when an input has brought it to a stage. -/
def enter (loop : Loop ρ μ) (input : Input ρ μ) (stage : Stage ρ μ) : Loop ρ μ :=
  { loop with stage, trace := loop.trace ++ stage.entry input }

/-- The loop after an action. -/
def act (loop : Loop ρ μ) : Action ρ μ → Loop ρ μ
  | .cancel => { loop with isCancelled := true }
  | .take input =>
    match loop.stage.next? input with
    | some stage => if input.agrees loop.isCancelled then loop.enter input stage else loop
    | none => loop

/-- The loop after a list of actions. -/
def run (isCancelled : Bool) (actions : List (Action ρ μ)) : Loop ρ μ :=
  actions.foldl act (start isCancelled)

/-- An action is passed over, cancels the token, or brings the loop to its next stage. -/
theorem act_cases (loop : Loop ρ μ) (action : Action ρ μ) :
    loop.act action = loop ∨ loop.act action = { loop with isCancelled := true } ∨
    ∃ input stage, input.agrees loop.isCancelled ∧ Move loop.stage input stage ∧
      loop.act action = loop.enter input stage := by
  cases action with
  | cancel => exact .inr (.inl rfl)
  | take input =>
    cases next : loop.stage.next? input with
    | none => exact .inl (by simp [act, next])
    | some stage =>
      by_cases agrees : input.agrees loop.isCancelled
      · have entered : loop.act (.take input) = loop.enter input stage := by
          simp [act, next, agrees]
        exact .inr (.inr ⟨input, stage, agrees, .of_next? next, entered⟩)
      · exact .inl (by simp [act, next, agrees])

/-- **A loop goes on with whatever it waits for**, unless the state of its token speaks against
it. -/
theorem act_of_awaits {loop : Loop ρ μ} {input : Input ρ μ} (awaited : loop.stage.awaits input)
    (agrees : input.agrees loop.isCancelled) :
    ∃ stage, Move loop.stage input stage ∧ loop.act (.take input) = loop.enter input stage := by
  obtain ⟨stage, next⟩ := Option.isSome_iff_exists.1 ((loop.stage.next?_isSome input).trans awaited)
  exact ⟨stage, .of_next? next, by simp [act, next, agrees]⟩

/-- What holds at the start, whatever the token is, and of a stage with the trace that has led to
it whenever it does of the stage before, holds after every run. -/
theorem run_induction {property : Stage ρ μ → List (Occurrence ρ μ) → Prop}
    (start : property .idle [])
    (step : ∀ {stage trace input later}, property stage trace → Move stage input later →
      property later (trace ++ later.entry input))
    (isCancelled : Bool) (actions : List (Action ρ μ)) :
    property (run isCancelled actions).stage (run isCancelled actions).trace := by
  induction actions using List.reverseRecOn with
  | nil => exact start
  | append_singleton earlier action ih =>
    rw [run, List.foldl_append, List.foldl_cons, List.foldl_nil]
    rcases act_cases (earlier.foldl act (Loop.start isCancelled)) action with
      same | cancelled | ⟨input, stage, _, move, entered⟩
    · rw [same]
      exact ih
    · rw [cancelled]
      exact ih
    · rw [entered]
      exact step ih move

/-- Where a call was made the loop had just come to a stage with that call, and what is kept by
every run held there. -/
theorem exists_of_called {property : Stage ρ μ → List (Occurrence ρ μ) → Prop}
    (start : property .idle [])
    (step : ∀ {stage trace input later}, property stage trace → Move stage input later →
      property later (trace ++ later.entry input))
    {isCancelled : Bool} {actions : List (Action ρ μ)} {before after : List (Occurrence ρ μ)}
    {call : Call ρ μ} (split : (run isCancelled actions).trace = before ++ .called call :: after) :
    ∃ stage, stage.call? = some call ∧ property stage (before ++ [.called call]) := by
  let held := fun (stage : Stage ρ μ) (trace : List (Occurrence ρ μ)) =>
    property stage trace ∧ ∀ before after call, trace = before ++ .called call :: after →
      ∃ stage, stage.call? = some call ∧ property stage (before ++ [.called call])
  suffices kept : held (run isCancelled actions).stage (run isCancelled actions).trace from
    kept.2 _ _ _ split
  refine run_induction ?_ ?_ isCancelled actions
  · exact ⟨start, by simp⟩
  · intro stage trace input later ⟨here, earlier⟩ move
    have there : property later (trace ++ later.entry input) := step here move
    refine ⟨there, fun before after call split => ?_⟩
    rcases split_append split with ⟨middle, old, _⟩ | ⟨middle, rfl, new⟩
    · exact earlier _ _ _ old
    · rcases Stage.split_entry new with ⟨_, isInput, _⟩ | ⟨made, called, rfl, same, _⟩
      · cases isInput
      · cases same
        exact ⟨later, called, by simpa [Stage.entry, called] using there⟩

/-- Where an input was taken the loop was in a stage that takes it, and what is kept by every run
held there. What follows such an input at once, and goes on to with every move, is what has followed
it. -/
theorem exists_of_took (property : Stage ρ μ → List (Occurrence ρ μ) → Prop)
    (follows : Stage ρ μ → Stage ρ μ → List (Occurrence ρ μ) → Prop) {input : Input ρ μ}
    (start : property .idle [])
    (step : ∀ {stage trace input later}, property stage trace → Move stage input later →
      property later (trace ++ later.entry input))
    (begins : ∀ {first later}, Move first input later →
      follows first later (later.call?.map .called).toList)
    (goesOn : ∀ {first stage after next later}, follows first stage after →
      Move stage next later → follows first later (after ++ later.entry next))
    {isCancelled : Bool} {actions : List (Action ρ μ)} {before after : List (Occurrence ρ μ)}
    (split : (run isCancelled actions).trace = before ++ .took input :: after) :
    ∃ first later, Move first input later ∧ property first before ∧
      follows first (run isCancelled actions).stage after := by
  let held := fun (stage : Stage ρ μ) (trace : List (Occurrence ρ μ)) =>
    property stage trace ∧ ∀ before after, trace = before ++ .took input :: after →
      ∃ first later, Move first input later ∧ property first before ∧ follows first stage after
  suffices kept : held (run isCancelled actions).stage (run isCancelled actions).trace from
    kept.2 _ _ split
  refine run_induction ?_ ?_ isCancelled actions
  · exact ⟨start, by simp⟩
  · intro stage trace next later ⟨here, earlier⟩ move
    refine ⟨step here move, fun before after split => ?_⟩
    rcases split_append split with ⟨middle, old, rfl⟩ | ⟨middle, rfl, new⟩
    · obtain ⟨first, second, taken, before_holds, followed⟩ := earlier _ _ old
      exact ⟨first, second, taken, before_holds, goesOn followed move⟩
    · rcases Stage.split_entry new with ⟨rfl, isInput, rfl⟩ | ⟨_, _, _, isCall, _⟩
      · cases isInput
        exact ⟨stage, later, move, by simpa using here, begins move⟩
      · cases isCall

end Loop

end Turnstile.Consumer
