import Turnstile.Pod
import Turnstile.Text.Quoted

/-!
# Faults

What can go wrong at the three services that the scheduler talks to, and the faults that end it.
Each fault has one wording, its `message`.
-/

set_option autoImplicit false

namespace Turnstile

/-- A fault of a call to the orchestration API. -/
inductive ApiFault where
  /-- No answer was received. -/
  | unreachable (detail : String)
  /-- The answer has a status that is no success. -/
  | status (code : Nat) (body : String)
  /-- The API does not know what was asked for. -/
  | notFound (what : String)
  /-- The body of the answer makes no sense. -/
  | undecodable (detail : String)
deriving DecidableEq, Repr

/-- The wording of the fault. -/
def ApiFault.message : ApiFault → String
  | .unreachable detail => s!"API request failed: {detail}"
  | .status code body => s!"API returned {code}: {body}"
  | .notFound what => s!"not found: {what}"
  | .undecodable detail => s!"failed to decode API response: {detail}"

/-- A fault of the message broker. -/
inductive QueueFault where
  /-- A connection cannot be opened or closed. -/
  | connect (detail : String)
  /-- A reader has failed. -/
  | receive (queue : String) (detail : String)
  /-- A reader is closed. -/
  | closed (queue : String)
  /-- A message cannot be acknowledged. -/
  | acknowledge (detail : String)
  /-- No attempt to connect has succeeded. -/
  | exhausted (attempts : Nat) (last : String)
deriving DecidableEq, Repr

/-- The wording of the fault. -/
def QueueFault.message : QueueFault → String
  | .connect detail => s!"failed to connect to broker: {detail}"
  | .receive queue detail => s!"failed to receive from {queue}: {detail}"
  | .closed queue => s!"reader for {queue} is closed"
  | .acknowledge detail => s!"failed to acknowledge message: {detail}"
  | .exhausted attempts last => s!"broker unreachable after {attempts} attempts: {last}"

/-- A fault of the substrate. -/
inductive SubstrateFault where
  /-- No answer was received, or it broke off. -/
  | unreachable (detail : String)
  /-- The answer has a status that is no success. -/
  | status (code : Nat) (body : String)
  /-- The body of the answer makes no sense. -/
  | undecodable (detail : String)
  /-- A watch line has a type that no event has. -/
  | unexpectedEvent (type : String)
  /-- The watch itself reports an error. -/
  | watch (code : Nat) (detail : String)
  /-- The way to the substrate is not configured. -/
  | configuration (detail : String)
deriving DecidableEq, Repr

namespace SubstrateFault

/-- The wording of the fault. -/
def message : SubstrateFault → String
  | .unreachable detail => s!"substrate request failed: {detail}"
  | .status code body => s!"substrate returned {code}: {body}"
  | .undecodable detail => s!"failed to decode substrate response: {detail}"
  | .unexpectedEvent type =>
    s!"failed to decode substrate response: unexpected watch event type {Text.quote type}"
  | .watch code detail => s!"watch failed with code {code}: {detail}"
  | .configuration detail => s!"invalid substrate configuration: {detail}"

/-- Whether the version that was asked for is too old to go on from. -/
def isGone : SubstrateFault → Bool
  | .status code _ => code == 410
  | .watch code _ => code == 410
  | _ => false

end SubstrateFault

/-- A fault that ends the scheduler. -/
inductive FatalFault where
  /-- The pods of a kind cannot be listed at the start. -/
  | initialSync (kind : WorkKind) (cause : SubstrateFault)
  /-- No reader can be opened on a queue. -/
  | queueConnect (queue : String) (cause : QueueFault)
  /-- The projects cannot be listed. -/
  | projectList (cause : ApiFault)
deriving DecidableEq, Repr

namespace FatalFault

/-- The wording of the cause. -/
def causeMessage : FatalFault → String
  | .initialSync _ cause => cause.message
  | .queueConnect _ cause => cause.message
  | .projectList cause => cause.message

/-- The wording of the fault, which ends with that of its cause. -/
def message (fault : FatalFault) : String :=
  match fault with
  | .initialSync kind _ => s!"initial {kind.text} pod sync failed: {fault.causeMessage}"
  | .queueConnect queue _ => s!"unable to open reader on queue {queue}: {fault.causeMessage}"
  | .projectList _ => s!"unable to list projects: {fault.causeMessage}"

end FatalFault

/-- The place where fatal faults are reported. It holds one; those reported while it is taken are
dropped. -/
structure FatalSlot where
  pending : Option FatalFault
deriving DecidableEq, Repr

namespace FatalSlot

/-- The slot without a fault. -/
def empty : FatalSlot := ⟨none⟩

/-- Report a fault. -/
def report (slot : FatalSlot) (fault : FatalFault) : FatalSlot := ⟨slot.pending.or (some fault)⟩

/-- Take the fault, which empties the slot. -/
def take (slot : FatalSlot) : Option FatalFault × FatalSlot := (slot.pending, empty)

@[simp] theorem take_report_empty (fault : FatalFault) :
    (empty.report fault).take = (some fault, empty) := rfl

end FatalSlot

end Turnstile
