import Turnstile.Admission
import Turnstile.Settings
import Turnstile.Ticker
import Turnstile.Tracker

/-!
# Capacity managers

A capacity manager lets work of one kind in, one piece at a time: each of its ticks offers an
admission, provided that fewer pods of the kind use capacity than the ceiling allows.
-/

set_option autoImplicit false

namespace Turnstile

/-- The ceiling of a kind. -/
def Settings.Limits.ceiling (limits : Settings.Limits) : WorkKind → Nat
  | .worker => limits.maxWorkers
  | .job => limits.maxJobs

/-- Offer an admission while fewer pods of the kind use capacity than the ceiling allows; whether
it was delivered. -/
def Tracker.offerBelow {α : Type} (tracker : Tracker) (kind : WorkKind) (ceiling : Nat)
    (admission : Admission α) : Bool × Admission α :=
  if tracker.count kind < ceiling then admission.offer else (false, admission)

namespace CapacityManager

/-- What a capacity manager is waiting for. -/
inductive Stage where
  | idle
  | waiting (due : Nat)
  | stopped
deriving DecidableEq, Repr

/-- What happens to a capacity manager; times in milliseconds. -/
inductive Input where
  | began (now : Nat)
  | ticked (now : Nat)
  | cancelled

/-- The stage after an input, and whether it makes an offer. The first tick is one period after
the start. -/
def step (period : Nat) : Stage → Input → Option (Stage × Bool)
  | .idle, .began now => some (.waiting (now + period), false)
  | .waiting due, .ticked now => some (.waiting (Ticker.next period due now), true)
  | .waiting _, .cancelled => some (.stopped, false)
  | _, _ => none

end CapacityManager

end Turnstile
