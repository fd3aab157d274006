import Turnstile.Fault

/-!
# Delayed deletions

A finished pod is kept for a while, so that its logs can be read, and then deleted.
-/

set_option autoImplicit false

namespace Turnstile.Deletion

/-- What a deletion is waiting for: it sleeps, and then asks the substrate to delete the pod. -/
inductive Stage where
  | idle
  | sleeping
  | deleting
  | ended
deriving DecidableEq, Repr

/-- What happens to a deletion. -/
inductive Input where
  | began
  | elapsed
  | answered (result : Except SubstrateFault Unit)
  | cancelled

/-- The stage after an input. Only the sleep can be cancelled; a deletion that fails is not tried
again. -/
def Stage.next? : Stage → Input → Option Stage
  | idle, .began => some sleeping
  | sleeping, .elapsed => some deleting
  | sleeping, .cancelled => some ended
  | deleting, .answered _ => some ended
  | _, _ => none

end Turnstile.Deletion
