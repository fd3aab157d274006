import Turnstile.Event
import Turnstile.Fault
import Turnstile.Ticker

/-!
# The project manager

The project manager lists the projects at once and then periodically, and reconciles the registry
with each listing. A listing that fails ends it.
-/

set_option autoImplicit false

namespace Turnstile.ProjectManager

/-- What the project manager is waiting for. -/
inductive Stage where
  | idle
  /-- For the tick that is due at a time. -/
  | waiting (due : Nat)
  /-- For the list of projects; when the tick after that is due. -/
  | listing (due : Nat)
  /-- The manager has ended, with a fault if the projects could not be listed. -/
  | stopped (fault : Option ApiFault)
deriving DecidableEq, Repr

/-- What happens to the project manager; times in milliseconds. -/
inductive Input where
  | began (now : Nat)
  | ticked (now : Nat)
  | listed (result : Except ApiFault (List ProjectId))
  | cancelled

/-- The stage after an input, and the projects to reconcile with. A listing cannot be cancelled. -/
def step (period : Nat) : Stage → Input → Option (Stage × Option (List ProjectId))
  | .idle, .began now => some (.waiting now, none)
  | .waiting due, .ticked now => some (.listing (Ticker.next period due now), none)
  | .listing due, .listed (.ok projects) => some (.waiting due, some projects)
  | .listing _, .listed (.error fault) => some (.stopped (some fault), none)
  | .waiting _, .cancelled => some (.stopped none, none)
  | _, _ => none

end Turnstile.ProjectManager
