import Turnstile.Capacity

/-!
# The gate

The gate is what capacity managers and consumers meet at: the tracker, which says how much
capacity is in use, and for each kind of work the line of those who wait for an admission.

`serve` drives a gate request by request. Those who are admitted take it up at once, so whoever
gives up waiting afterwards is too late.
-/

set_option autoImplicit false

namespace Turnstile

/-- The tracker and the lines for admission. -/
structure Gate (α : Type) where
  tracker : Tracker
  workers : Admission α
  jobs : Admission α

namespace Gate

variable {α : Type}

/-- The gate at its start. -/
def fresh : Gate α := ⟨.fresh, .fresh, .fresh⟩

/-- The line for admission of a kind. -/
def admission (gate : Gate α) : WorkKind → Admission α
  | .worker => gate.workers
  | .job => gate.jobs

/-- The gate with a line for admission replaced. -/
def setAdmission (gate : Gate α) (kind : WorkKind) (admission : Admission α) : Gate α :=
  match kind with
  | .worker => { gate with workers := admission }
  | .job => { gate with jobs := admission }

/-- Make an offer to the line of a kind; whether it was delivered. -/
def offer (gate : Gate α) (kind : WorkKind) : Bool × Gate α :=
  let (delivered, admission) := (gate.admission kind).offer
  (delivered, gate.setAdmission kind admission)

/-- The tick of a capacity manager with a ceiling; whether it has admitted anyone. -/
def tick (gate : Gate α) (kind : WorkKind) (ceiling : Nat) : Bool × Gate α :=
  let (delivered, admission) := gate.tracker.offerBelow kind ceiling (gate.admission kind)
  (delivered, gate.setAdmission kind admission)

/-- Those who are admitted, each of whom takes it up. -/
def takeUp (gate : Gate α) : List α × Gate α :=
  (gate.workers.handed ++ gate.jobs.handed,
    { gate with
      workers := { gate.workers with handed := [] }
      jobs := { gate.jobs with handed := [] } })

section Lines

variable [DecidableEq α]

/-- Whether someone waits in any line. -/
def isWaiting (gate : Gate α) (id : α) : Bool := gate.workers.isWaiting id || gate.jobs.isWaiting id

/-- Leave all lines. -/
def withdraw (gate : Gate α) (id : α) : Gate α :=
  { gate with workers := gate.workers.withdraw id, jobs := gate.jobs.withdraw id }

/-- Begin to wait in the line of a kind, and in no other. -/
def wait (gate : Gate α) (kind : WorkKind) (id : α) : Gate α :=
  let gate := gate.withdraw id
  gate.setAdmission kind ((gate.admission kind).wait id)

end Lines

/-! ## Requests -/

/-- What can be asked for. -/
inductive Request where
  | observe (kind : WorkKind) (pod : Pod)
  | forget (kind : WorkKind) (pod : PodName)
  | replace (kind : WorkKind) (pods : List Pod)
  | wait (kind : WorkKind) (id : String)
  | withdraw (id : String)
  | withdrawAndOffer (kind : WorkKind) (id : String)
  | offer (kind : WorkKind)
  | tick (kind : WorkKind) (ceiling : Nat)

/-- The pods that a request tells about. -/
def Request.pods : Request → List PodName
  | .observe _ pod => [pod.name]
  | .replace _ pods => pods.map (·.name)
  | _ => []

/-- Carry out a request; what it has to answer is yes or no, or nothing at all. -/
def serve (gate : Gate String) : Request → Option Bool × Gate String
  | .observe kind pod => (none, { gate with tracker := gate.tracker.observe kind pod })
  | .forget kind pod => (none, { gate with tracker := gate.tracker.forget kind pod })
  | .replace kind pods => (none, { gate with tracker := gate.tracker.replace kind pods })
  | .wait kind id => (none, gate.wait kind id)
  | .withdraw id => (some (gate.isWaiting id), gate.withdraw id)
  | .withdrawAndOffer kind id =>
    let (delivered, gate) := (gate.withdraw id).offer kind
    (some delivered, gate)
  | .offer kind =>
    let (delivered, gate) := gate.offer kind
    (some delivered, gate)
  | .tick kind ceiling =>
    let (delivered, gate) := gate.tick kind ceiling
    (some delivered, gate)

end Gate

end Turnstile
