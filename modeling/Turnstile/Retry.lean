/-!
# Retries with a fixed pause

`Retry.attempt` runs a call until it succeeds or the policy's attempts are used up, pausing
between two attempts and not after the last one. The call and the pause are effects of any monad,
so the same definition serves a real clock, a virtual one and a peer that is simulated.
-/

set_option autoImplicit false

namespace Turnstile.Retry

/-- How often to try, and how many milliseconds to pause in between. -/
structure Policy where
  attempts : Nat
  pause : Nat
deriving DecidableEq, Repr

/-- Ten attempts, ten seconds apart. -/
def Policy.standard : Policy := ⟨10, 10000⟩

/-- Why a retried operation gave no value. -/
inductive Failure (ε : Type _) where
  | exhausted (operation : String) (attempts : Nat) (last : ε)
  | notAttempted (operation : String)
deriving DecidableEq, Repr

/-- The wording of the failure, given that of the operation's own errors. -/
def Failure.message {ε : Type _} (wording : ε → String) : Failure ε → String
  | .exhausted operation attempts last =>
    s!"{operation} failed after {attempts} attempts: {wording last}"
  | .notAttempted operation =>
    s!"{operation} was not attempted: retry policy allows zero attempts"

section Attempt

variable {m : Type → Type} [Monad m] {ε α : Type}

/-- Try as often as is left; the number in an error is that of all attempts. -/
def attemptsLeft (policy : Policy) (operation : String) (pause : Nat → m Unit)
    (call : m (Except ε α)) : Nat → m (Except (Failure ε) α)
  | 0 => return .error (.notAttempted operation)
  | 1 => do
    match ← call with
    | .ok value => return .ok value
    | .error last => return .error (.exhausted operation policy.attempts last)
  | left + 2 => do
    match ← call with
    | .ok value => return .ok value
    | .error _ =>
      pause policy.pause
      attemptsLeft policy operation pause call (left + 1)

/-- Run a call under a policy. -/
def attempt (policy : Policy) (operation : String) (pause : Nat → m Unit)
    (call : m (Except ε α)) : m (Except (Failure ε) α) :=
  attemptsLeft policy operation pause call policy.attempts

end Attempt

/-! ## Timelines

A timeline is a run of attempts in which nothing but the pauses takes time, with the outcomes
given in advance: call `n` has the `n`-th outcome, and the last outcome repeats.
-/

/-- The virtual time, the outcomes still to come, and when calls were made, latest first. -/
structure Timeline (ε α : Type) where
  now : Nat
  outcomes : List (Except ε α)
  calls : List Nat

/-- One call: it is recorded and takes the next outcome, which stays if it is the last. -/
def Timeline.call {ε α : Type} (fallback : Except ε α) : StateM (Timeline ε α) (Except ε α) :=
  fun timeline =>
    let recorded := { timeline with calls := timeline.now :: timeline.calls }
    match timeline.outcomes with
    | [] => (fallback, recorded)
    | [outcome] => (outcome, recorded)
    | outcome :: later => (outcome, { recorded with outcomes := later })

/-- Let time pass. -/
def Timeline.pause {ε α : Type} (milliseconds : Nat) : StateM (Timeline ε α) Unit :=
  fun timeline => ((), { timeline with now := timeline.now + milliseconds })

/-- The result of a run, the times of its calls and the time of its end. -/
structure Report (ε α : Type) where
  result : Except (Failure ε) α
  calls : List Nat
  elapsed : Nat

/-- Run a policy against given outcomes. -/
def report {ε α : Type} (policy : Policy) (operation : String) (outcomes : List (Except ε α))
    (fallback : Except ε α) : Report ε α :=
  let (result, timeline) :=
    (attempt policy operation Timeline.pause (Timeline.call fallback)).run ⟨0, outcomes, []⟩
  ⟨result, timeline.calls.reverse, timeline.now⟩

end Turnstile.Retry
