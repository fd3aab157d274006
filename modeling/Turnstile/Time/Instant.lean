import Mathlib.Algebra.Group.Int.Defs

/-!
# Instants

The clock by which timers are set counts whole seconds, in a signed number of 64 bits, and
nanoseconds on top of them. So it has an end, and there is no instant beyond it.
-/

set_option autoImplicit false

namespace Turnstile.Time

/-- A time that the clock can show. -/
structure Instant where
  seconds : Int
  nanoseconds : Nat
  start_le : -2 ^ 63 ≤ seconds
  lt_end : seconds < 2 ^ 63
  nanoseconds_lt : nanoseconds < 1000000000
deriving DecidableEq, Repr

namespace Instant

/-- The instant some milliseconds later, if it is before the end of the clock. -/
def after? (instant : Instant) (milliseconds : Nat) : Option Instant :=
  let total := instant.nanoseconds + milliseconds * 1000000
  if fits : instant.seconds + ↑(total / 1000000000) < 2 ^ 63 then
    some {
      seconds := instant.seconds + ↑(total / 1000000000)
      nanoseconds := total % 1000000000
      start_le := Int.le_trans instant.start_le (Int.le_add_of_nonneg_right (Int.natCast_nonneg _))
      lt_end := fits
      nanoseconds_lt := Nat.mod_lt _ (by decide) }
  else none

/-- Whole seconds only count as seconds. -/
theorem isSome_after?_iff (instant : Instant) (seconds : Nat) :
    (instant.after? (seconds * 1000)).isSome ↔ instant.seconds + seconds < 2 ^ 63 := by
  have whole : (instant.nanoseconds + seconds * 1000 * 1000000) / 1000000000 = seconds := by
    have small := instant.nanoseconds_lt
    omega
  simp only [after?, whole]
  exact Option.isSome_dite

/-- Time may pass in two parts. -/
theorem after?_add (instant : Instant) (first second : Nat) :
    instant.after? (first + second) = (instant.after? first).bind (·.after? second) := by
  let total := instant.nanoseconds + first * 1000000
  let more := total % 1000000000 + second * 1000000
  have left : (instant.nanoseconds + (first + second) * 1000000) % 1000000000 =
      more % 1000000000 := by omega
  have carried : instant.seconds +
      ↑((instant.nanoseconds + (first + second) * 1000000) / 1000000000) =
        instant.seconds + ↑(total / 1000000000) + ↑(more / 1000000000) := by omega
  by_cases fits : instant.seconds + ↑(total / 1000000000) < 2 ^ 63
  · have reached : instant.after? first = some ⟨_, _, _, fits, _⟩ := dif_pos fits
    rw [reached, Option.bind_some]
    simp only [after?, carried, left]
    rfl
  · have missed : instant.after? first = none := dif_neg fits
    rw [missed, Option.bind_none]
    refine dif_neg fun within => fits ?_
    rw [carried] at within
    exact Int.lt_of_le_of_lt (Int.le_add_of_nonneg_right (Int.natCast_nonneg _)) within

end Instant

end Turnstile.Time
