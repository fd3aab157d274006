import Turnstile.Fault

/-!
# Watching pods

What a watch tells about the pods that it was started for.
-/

set_option autoImplicit false

namespace Turnstile

/-- An event of a watch. -/
inductive WatchEvent where
  | added (pod : Pod)
  | modified (pod : Pod)
  | deleted (pod : Pod)
  /-- Nothing has changed up to a version. -/
  | bookmark (version : String)

end Turnstile
