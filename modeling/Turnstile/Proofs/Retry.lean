import Mathlib.Logic.Function.Iterate
import Turnstile.Retry

/-!
# Attempts against a state

Where a call is an effect on a state, an attempt that is left either ends the run, with the value or
with the fault of the last attempt, or leads through a pause to the run of those that are left after
it. So the `n`-th attempt finds the state in which `n` calls, each with a pause after it, have left
the first one (`next`), and the run ends with the first call that succeeds, or with the last one
that is allowed.
-/

set_option autoImplicit false

namespace Turnstile

/-- What follows a step of which the outcome is known. -/
theorem run_bind_of_run {σ α β : Type} {step : StateM σ α} {next : α → StateM σ β}
    {state after : σ} {value : α} (ran : step.run state = (value, after)) :
    (step >>= next).run state = (next value).run after := by
  rw [StateT.run_bind, ran]
  rfl

theorem run_of_outcome {σ α : Type} {step : StateM σ α} {state : σ} {value : α}
    (outcome : (step.run state).1 = value) : step.run state = (value, (step.run state).2) :=
  Prod.ext outcome rfl

namespace Retry

variable {σ ε α : Type} {policy : Policy} {operation : String} {pause : Nat → StateM σ Unit}
  {call : StateM σ (Except ε α)} {state after : σ}

theorem attemptsLeft_of_ok {value : α} (called : call.run state = (.ok value, after)) (left : Nat) :
    (attemptsLeft policy operation pause call (left + 1)).run state = (.ok value, after) := by
  cases left with
  | zero =>
    rw [attemptsLeft, run_bind_of_run called]
    rfl
  | succ left =>
    rw [attemptsLeft, run_bind_of_run called]
    rfl

theorem attemptsLeft_one_of_error {last : ε} (called : call.run state = (.error last, after)) :
    (attemptsLeft policy operation pause call 1).run state =
      (.error (.exhausted operation policy.attempts last), after) := by
  rw [attemptsLeft, run_bind_of_run called]
  rfl

theorem attemptsLeft_of_error {cause : ε} (called : call.run state = (.error cause, after))
    (left : Nat) :
    (attemptsLeft policy operation pause call (left + 2)).run state =
      (attemptsLeft policy operation pause call (left + 1)).run
        ((pause policy.pause).run after).2 := by
  rw [attemptsLeft, run_bind_of_run called]
  rfl

/-! ## Whole runs -/

variable (policy pause call) in
/-- The state in which the next attempt begins, if one that begins in this state fails. -/
def next (state : σ) : σ := ((pause policy.pause).run (call.run state).2).2

theorem attempt_of_no_attempts (none : policy.attempts = 0) (state : σ) :
    (attempt policy operation pause call).run state =
      (.error (.notAttempted operation), state) := by
  rw [attempt, none]
  rfl

/-- The first call that succeeds ends the run. -/
theorem attemptsLeft_of_first_ok {number left : Nat} {value : α} (within : number < left)
    (fail : ∀ n < number, ∃ cause, (call.run ((next policy pause call)^[n] state)).1 = .error cause)
    (succeeds : call.run ((next policy pause call)^[number] state) = (.ok value, after)) :
    (attemptsLeft policy operation pause call left).run state = (.ok value, after) := by
  induction number generalizing state left with
  | zero =>
    obtain ⟨left, rfl⟩ := Nat.exists_eq_add_of_lt within
    rw [Nat.zero_add]
    exact attemptsLeft_of_ok succeeds left
  | succ number ih =>
    match left, within with
    | left + 2, within =>
      obtain ⟨cause, failed⟩ : ∃ cause, (call.run state).1 = .error cause := fail 0 (Nat.succ_pos _)
      rw [attemptsLeft_of_error (run_of_outcome failed)]
      have fewer : number < left + 1 := Nat.lt_of_succ_lt_succ within
      exact ih fewer (fun n earlier => fail (n + 1) (Nat.succ_lt_succ earlier)) succeeds

/-- If all calls that are left fail, then the last of them ends the run. -/
theorem attemptsLeft_of_all_error {left : Nat} {last : ε}
    (fail : ∀ n < left, ∃ cause, (call.run ((next policy pause call)^[n] state)).1 = .error cause)
    (fails : call.run ((next policy pause call)^[left] state) = (.error last, after)) :
    (attemptsLeft policy operation pause call (left + 1)).run state =
      (.error (.exhausted operation policy.attempts last), after) := by
  induction left generalizing state with
  | zero => exact attemptsLeft_one_of_error fails
  | succ left ih =>
    obtain ⟨cause, failed⟩ : ∃ cause, (call.run state).1 = .error cause := fail 0 (Nat.succ_pos _)
    rw [attemptsLeft_of_error (run_of_outcome failed)]
    exact ih (fun n earlier => fail (n + 1) (Nat.succ_lt_succ earlier)) fails

theorem attempt_of_all_error {number : Nat} {last : ε} (all : policy.attempts = number + 1)
    (fail : ∀ n < number, ∃ cause, (call.run ((next policy pause call)^[n] state)).1 = .error cause)
    (fails : call.run ((next policy pause call)^[number] state) = (.error last, after)) :
    (attempt policy operation pause call).run state =
      (.error (.exhausted operation policy.attempts last), after) := by
  have left := congrArg
    (fun left => (attemptsLeft policy operation pause call left).run state) all
  exact left.trans (attemptsLeft_of_all_error fail fails)

/-- Runs against two states come to the same if their calls do as long as the states correspond. -/
theorem attemptsLeft_of_corresponding {τ : Type} {pause' : Nat → StateM τ Unit}
    {call' : StateM τ (Except ε α)} {corresponds : σ → τ → Prop}
    (calls : ∀ state state', corresponds state state' →
      (call.run state).1 = (call'.run state').1 ∧
        corresponds (call.run state).2 (call'.run state').2)
    (pauses : ∀ state state', corresponds state state' →
      corresponds ((pause policy.pause).run state).2 ((pause' policy.pause).run state').2)
    (left : Nat) {state' : τ} (start : corresponds state state') :
    let run := (attemptsLeft policy operation pause call left).run state
    let run' := (attemptsLeft policy operation pause' call' left).run state'
    run.1 = run'.1 ∧ corresponds run.2 run'.2 := by
  induction left generalizing state state' with
  | zero => exact ⟨rfl, start⟩
  | succ left ih =>
    obtain ⟨same, ends⟩ := calls state state' start
    cases outcome : (call.run state).1 with
    | ok value =>
      have outcome' : (call'.run state').1 = .ok value := same.symm.trans outcome
      rw [attemptsLeft_of_ok (run_of_outcome outcome), attemptsLeft_of_ok (run_of_outcome outcome')]
      exact ⟨rfl, ends⟩
    | error cause =>
      have outcome' : (call'.run state').1 = .error cause := same.symm.trans outcome
      cases left with
      | zero =>
        rw [attemptsLeft_one_of_error (run_of_outcome outcome),
          attemptsLeft_one_of_error (run_of_outcome outcome')]
        exact ⟨rfl, ends⟩
      | succ left =>
        rw [attemptsLeft_of_error (run_of_outcome outcome),
          attemptsLeft_of_error (run_of_outcome outcome')]
        exact ih (pauses _ _ ends)

end Retry

end Turnstile
