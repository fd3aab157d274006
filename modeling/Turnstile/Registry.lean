import Turnstile.Difference
import Turnstile.Event

/-!
# The registry of projects

For every project that is known, two consumer loops run, one for each kind of work, under a token
of the pair by which they are cancelled. The registry keeps the tokens; reconciling it with a list
of projects cancels the pairs of those that have gone and starts pairs for those that are new, in
the order of their names. Tokens are numbers that are not used again.
-/

set_option autoImplicit false

namespace Turnstile

/-- The tokens of the pairs that run. -/
structure Registry where
  tokens : Table ProjectId Nat

/-- How many pairs a reconciliation has started and stopped, and how many run after it. -/
structure ReconcileStats where
  started : Nat
  stopped : Nat
  active : Nat
deriving DecidableEq, Repr

/-- What a reconciliation comes to. -/
structure Reconciliation where
  registry : Registry
  /-- The tokens to cancel. -/
  cancelled : List Nat
  /-- The projects whose pairs are to be started, with their tokens. -/
  spawned : List (ProjectId × Nat)
  stats : ReconcileStats

namespace Registry

/-- The registry at its start. -/
def empty : Registry := ⟨.empty⟩

/-- The projects whose pairs run, in ascending order. -/
def projects (registry : Registry) : List ProjectId := ascending registry.tokens.keys

/-- The tokens of some projects. -/
def tokensOf (registry : Registry) (projects : List ProjectId) : List Nat :=
  projects.filterMap registry.tokens.get?

/-- The registry without some projects. -/
def without (registry : Registry) (projects : List ProjectId) : Registry :=
  ⟨projects.foldl Table.erase registry.tokens⟩

/-- The registry with more projects. -/
def withAll (registry : Registry) (pairs : List (ProjectId × Nat)) : Registry :=
  ⟨pairs.foldl (fun tokens pair => tokens.set pair.1 pair.2) registry.tokens⟩

/-- Reconcile with a list of projects; new tokens are numbered from `next` on. -/
def reconcile (registry : Registry) (next : Nat) (wanted : List ProjectId) : Reconciliation :=
  let difference := Difference.between wanted registry.tokens.keys
  let spawned := difference.added.zipIdx next
  let after := (registry.without difference.removed).withAll spawned
  { registry := after
    cancelled := registry.tokensOf difference.removed
    spawned
    stats := ⟨difference.added.length, difference.removed.length, after.tokens.size⟩ }

end Registry

end Turnstile
