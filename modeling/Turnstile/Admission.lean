/-!
# Admission

Consumers that have work to start wait for an admission. An offer admits the one that has waited
longest; an offer that finds nobody waiting is lost, so admissions never add up. Whoever gives up
waiting leaves his place in the line behind, and offers pass over it.

An admission is handed over when the offer is made and taken up when the waiter has its turn; one
that gives up in between loses it.
-/

set_option autoImplicit false

namespace Turnstile

/-- A place in the line. -/
structure Waiter (α : Type) where
  id : α
  isLive : Bool
deriving DecidableEq, Repr

/-- The line of those who wait, and those who are admitted and have not taken it up. -/
structure Admission (α : Type) where
  line : List (Waiter α)
  handed : List α
deriving DecidableEq, Repr

namespace Admission

variable {α : Type}

/-- Nobody waits. -/
def fresh : Admission α := ⟨[], []⟩

/-- The line without the places that were left. -/
def tidy (admission : Admission α) : Admission α :=
  { admission with line := admission.line.filter (·.isLive) }

/-- Begin to wait, behind the others. Places that were left are cleared away. -/
def wait (admission : Admission α) (id : α) : Admission α :=
  { admission.tidy with line := admission.tidy.line ++ [⟨id, true⟩] }

/-- Admit the first of a line who still waits; the places passed over are gone. -/
def admitFirst : List (Waiter α) → Option α × List (Waiter α)
  | [] => (none, [])
  | waiter :: rest => if waiter.isLive then (some waiter.id, rest) else admitFirst rest

/-- Admit one; whether there was one to admit. -/
def offer (admission : Admission α) : Bool × Admission α :=
  match admitFirst admission.line with
  | (some id, line) => (true, ⟨line, admission.handed ++ [id]⟩)
  | (none, line) => (false, { admission with line })

/-- How many wait. -/
def waiting (admission : Admission α) : Nat := admission.tidy.line.length

/-- Ask how many wait. Places that were left are cleared away. -/
def ask (admission : Admission α) : Nat × Admission α := (admission.waiting, admission.tidy)

variable [DecidableEq α]

/-- Whether someone waits. -/
def isWaiting (admission : Admission α) (id : α) : Bool :=
  admission.tidy.line.any fun waiter => waiter.id = id

/-- Give up waiting. -/
def withdraw (admission : Admission α) (id : α) : Admission α where
  line := admission.line.map fun waiter =>
    if waiter.id = id then { waiter with isLive := false } else waiter
  handed := admission.handed.filter (· ≠ id)

/-- Take up an admission that was handed over. -/
def take? (admission : Admission α) (id : α) : Option (Admission α) :=
  if id ∈ admission.handed then
    some { admission with handed := admission.handed.filter (· ≠ id) }
  else none

/-- What a waiter finds when it has its turn. -/
inductive Sight where
  | admitted
  | queued
  /-- It has no place in the line and was not admitted, so it waits for ever. -/
  | forgotten
deriving DecidableEq, Repr

/-- The turn of a waiter: it takes up its admission, if there is one. -/
def look (admission : Admission α) (id : α) : Sight × Admission α :=
  match admission.take? id with
  | some admission => (.admitted, admission)
  | none => (if admission.isWaiting id then .queued else .forgotten, admission)

end Admission

end Turnstile
