import Turnstile.Work

/-!
# Consumer loops

A consumer loop serves one queue. It opens a reader, reads a message, inspects it, and discards it
or waits for an admission and dispatches its work; only then is the message acknowledged and the
next one read. A reader that fails is closed and another one opened. A queue on which no reader
can be opened ends the loop with a fault.

**Stages.** The loop is a machine whose stage tells what it is waiting for. What happens next is an
input; `Stage.next?` says which inputs a stage takes and where they lead. Readers and messages are
handles of any type, so the machine serves every broker.

**Calls.** On coming to a stage the loop makes the one call that the stage waits for
(`Stage.call?`).

**Cancellation.** The waits for a reader, a message, an inspection and an admission can be
cancelled. A dispatch, an acknowledgment and the closing of the reader always run to their end, and
a loop that is cancelled while it is busy with one of these ends at the next wait. A message whose
work has not been dispatched is then left unacknowledged, so that the broker delivers it again.
-/

set_option autoImplicit false

namespace Turnstile.Consumer

variable {ρ μ : Type}

/-- What a loop is waiting for. -/
inductive Stage (ρ μ : Type) where
  /-- The loop has not had its first turn. -/
  | idle
  | opening
  | reading (reader : ρ)
  | inspecting (reader : ρ) (message : μ)
  | awaiting (reader : ρ) (message : μ) (work : Work)
  | dispatching (reader : ρ) (message : μ) (work : Work)
  | acknowledging (reader : ρ) (message : μ)
  /-- After the reader is closed the loop resumes, unless it is cancelled by then. -/
  | closing (reader : ρ) (resumes : Bool)
  /-- The loop has ended, with a fault if no reader could be opened. -/
  | exited (fault : Option QueueFault)
deriving DecidableEq

/-- What happens to a loop. -/
inductive Input (ρ μ : Type) where
  /-- The first turn; whether the loop is cancelled already. -/
  | began (isCancelled : Bool)
  | opened (result : Except QueueFault ρ)
  | received (result : Except QueueFault μ)
  | inspected (disposition : Disposition)
  | admitted
  /-- The work has been started, or could not be. -/
  | dispatched
  | acknowledged
  /-- The reader is closed or given up; whether the loop is cancelled by then. -/
  | closed (isCancelled : Bool)
  | cancelled

/-- What a loop asks of others. -/
inductive Call (ρ μ : Type) where
  | openReader
  | read (reader : ρ)
  | inspect (message : μ)
  /-- For an admission. -/
  | wait
  | dispatch (work : Work)
  | acknowledge (message : μ)
  | close (reader : ρ)
  /-- That no reader can be opened. -/
  | report (fault : QueueFault)
deriving DecidableEq

/-- Whether an input answers a call. A report has no answer. -/
def Call.isAnsweredBy : Call ρ μ → Input ρ μ → Bool
  | openReader, .opened _ => true
  | read _, .received _ => true
  | inspect _, .inspected _ => true
  | wait, .admitted => true
  | dispatch _, .dispatched => true
  | acknowledge _, .acknowledged => true
  | close _, .closed _ => true
  | _, _ => false

namespace Stage

/-- Whether the wait can be cancelled. -/
def isCancellable : Stage ρ μ → Bool
  | opening => true
  | reading _ => true
  | inspecting _ _ => true
  | awaiting _ _ _ => true
  | _ => false

/-- The reader that is open. -/
def reader? : Stage ρ μ → Option ρ
  | reading reader => some reader
  | inspecting reader _ => some reader
  | awaiting reader _ _ => some reader
  | dispatching reader _ _ => some reader
  | acknowledging reader _ => some reader
  | closing reader _ => some reader
  | _ => none

/-- The message in hand. -/
def message? : Stage ρ μ → Option μ
  | inspecting _ message => some message
  | awaiting _ message _ => some message
  | dispatching _ message _ => some message
  | acknowledging _ message => some message
  | _ => none

/-- The call that a loop makes on coming to the stage. -/
def call? : Stage ρ μ → Option (Call ρ μ)
  | idle => none
  | opening => some .openReader
  | reading reader => some (.read reader)
  | inspecting _ message => some (.inspect message)
  | awaiting _ _ _ => some .wait
  | dispatching _ _ work => some (.dispatch work)
  | acknowledging _ message => some (.acknowledge message)
  | closing reader _ => some (.close reader)
  | exited fault => fault.map .report

/-- Whether the stage waits for an input: for its first turn, for any answer to its call, or for
the cancellation of its wait. -/
def awaits (stage : Stage ρ μ) : Input ρ μ → Bool
  | .began _ => (stage matches idle)
  | .cancelled => stage.isCancellable
  | input => stage.call?.any (·.isAnsweredBy input)

/-- Whether the loop has ended. -/
def isOver : Stage ρ μ → Bool
  | exited _ => true
  | _ => false

/-- The stage of a loop that begins a round. -/
def begin (isCancelled : Bool) : Stage ρ μ := if isCancelled then exited none else opening

/-- The stage after an input; none if the input does not belong to the stage. -/
def next? : Stage ρ μ → Input ρ μ → Option (Stage ρ μ)
  | idle, .began isCancelled => some (begin isCancelled)
  | opening, .opened (.ok reader) => some (reading reader)
  | opening, .opened (.error fault) => some (exited (some fault))
  | opening, .cancelled => some (exited none)
  | reading reader, .received (.ok message) => some (inspecting reader message)
  | reading reader, .received (.error _) => some (closing reader true)
  | reading reader, .cancelled => some (closing reader false)
  | inspecting reader message, .inspected .discard => some (acknowledging reader message)
  | inspecting reader message, .inspected (.dispatch work) => some (awaiting reader message work)
  | inspecting reader _, .cancelled => some (closing reader false)
  | awaiting reader message work, .admitted => some (dispatching reader message work)
  | awaiting reader _ _, .cancelled => some (closing reader false)
  | dispatching reader message _, .dispatched => some (acknowledging reader message)
  | acknowledging reader _, .acknowledged => some (reading reader)
  | closing _ resumes, .closed isCancelled => some (begin (!resumes || isCancelled))
  | _, _ => none

/-- **A stage takes what it waits for, and nothing else.** -/
theorem next?_isSome (stage : Stage ρ μ) (input : Input ρ μ) :
    (stage.next? input).isSome = stage.awaits input := by
  cases stage with
  | opening =>
    cases input with
    | opened result => cases result <;> rfl
    | _ => rfl
  | reading reader =>
    cases input with
    | received result => cases result <;> rfl
    | _ => rfl
  | inspecting reader message =>
    cases input with
    | inspected disposition => cases disposition <;> rfl
    | _ => rfl
  | exited fault => cases fault <;> cases input <;> rfl
  | _ => cases input <;> rfl

theorem next?_cancelled_isSome (stage : Stage ρ μ) :
    (stage.next? .cancelled).isSome = stage.isCancellable :=
  stage.next?_isSome .cancelled

end Stage

end Turnstile.Consumer
