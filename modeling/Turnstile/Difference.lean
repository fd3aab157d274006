/-!
# Differences of key sets

What has to be started and what has to be stopped to get from the keys that are there to the keys
that are wanted. Both lists are ascending and without repeats, so they depend on the two sets
alone.
-/

set_option autoImplicit false

namespace Turnstile

section Ascending

variable {κ : Type _} [LT κ] [DecidableLT κ] [DecidableEq κ]

/-- Put a key into its place in an ascending list, unless it is there. -/
def insertAscending (key : κ) : List κ → List κ
  | [] => [key]
  | head :: tail =>
    if key < head then key :: head :: tail
    else if key = head then head :: tail
    else head :: insertAscending key tail

/-- The keys of a list, each once, in ascending order. -/
def ascending (keys : List κ) : List κ := keys.foldr insertAscending []

end Ascending

/-- The keys to start and the keys to stop. -/
structure Difference (κ : Type _) where
  added : List κ
  removed : List κ
deriving DecidableEq, Repr

namespace Difference

variable {κ : Type _}

/-- Whether nothing has to be done. -/
def isConverged (difference : Difference κ) : Bool :=
  difference.added.isEmpty && difference.removed.isEmpty

variable [LT κ] [DecidableLT κ] [DecidableEq κ]

/-- Compare the wanted keys with those that are there. -/
def between (desired actual : List κ) : Difference κ where
  added := ascending (desired.filter fun key => key ∉ actual)
  removed := ascending (actual.filter fun key => key ∉ desired)

end Difference

end Turnstile
