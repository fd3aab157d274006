/-!
# Tickers

A ticker is due again one period after it was due, so ticks do not drift. A tick that comes late,
because the work of the one before took too long, shifts those after it: the next one is due a
full period after it.
-/

set_option autoImplicit false

namespace Turnstile.Ticker

/-- How late, in milliseconds, a tick may come without counting as late. -/
def tolerance : Nat := 5

/-- When the tick after the one at `now` is due, which was due itself at `due`. -/
def next (period due now : Nat) : Nat :=
  if due + tolerance < now then now + period else due + period

theorem next_of_on_time {period due now : Nat} (onTime : now ≤ due + tolerance) :
    next period due now = due + period := by
  simp [next, Nat.not_lt.2 onTime]

end Turnstile.Ticker
