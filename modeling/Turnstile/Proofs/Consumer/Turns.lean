import Turnstile.Proofs.Consumer.Crew

/-!
# The loops of a crew one by one

Whatever happens to a crew, each of its loops stays where it is, is dropped, or makes a move; what
it takes in then is what it was given, or a reply of the broker (`Crew.turn_act`). So a loop keeps
to the readers of its own queue (`Crew.Reads.act`).

Where one reader at most is open on a queue, one loop at most has a message of it in hand that is
not acknowledged yet (`Crew.Tended.eq_of_unsettled`).
-/

set_option autoImplicit false

namespace Turnstile

/-- A reader that is opened reads the queue that it was asked for. -/
theorem Exchange.queue_of_opened {α : Type} {exchange later : Exchange α} {name : String}
    {reader : ReaderRef} (opened : exchange.openReader name = .ok (reader, later)) :
    reader.queue = name := by
  unfold openReader at opened
  split at opened
  case h_1 => cases opened
  case h_2 accepted =>
    cases opened
    rw [(Broker.openReader?_of_opened accepted).1]

namespace Consumer

variable {ρ μ : Type} {stage later : Stage ρ μ} {input : Input ρ μ} {work : Work}

/-! ## What a move leaves in hand -/

/-- The work that is to be started, or is being started. -/
def Stage.work? : Stage ρ μ → Option Work
  | awaiting _ _ work => some work
  | dispatching _ _ work => some work
  | _ => none

/-- Whether a message is inspected. -/
def Stage.isInspecting : Stage ρ μ → Bool
  | inspecting _ _ => true
  | _ => false

theorem Stage.unsettled?_isSome_of_work? (has : stage.work? = some work) :
    stage.unsettled?.isSome := by
  cases stage <;> first | rfl | cases has

theorem Stage.unsettled?_isSome_of_isInspecting (inspects : stage.isInspecting) :
    stage.unsettled?.isSome := by
  cases stage <;> first | rfl | cases inspects

/-- Work comes into hand by the inspection of its message. -/
theorem Move.work?_cases (move : Move stage input later) (has : later.work? = some work) :
    stage.work? = some work ∨ input = .inspected (.dispatch work) := by
  cases move with
  | wanted reader message other =>
    cases has
    exact .inr rfl
  | admitted reader message other => exact .inl has
  | began isCancelled => cases isCancelled <;> cases has
  | closed reader resumes isCancelled => cases resumes <;> cases isCancelled <;> cases has
  | _ => cases has

/-- A reader comes into hand by being opened. -/
theorem Move.reader?_cases {reader : ρ} (move : Move stage input later)
    (has : later.reader? = some reader) :
    stage.reader? = some reader ∨ input = .opened (.ok reader) := by
  cases move with
  | opened other =>
    cases has
    exact .inr rfl
  | began isCancelled => cases isCancelled <;> cases has
  | closed other resumes isCancelled => cases resumes <;> cases isCancelled <;> cases has
  | unopened fault => cases has
  | leaveOpening => cases has
  | _ => exact .inl has

namespace Crew

variable {queueOf : Nat → String} {crew : Crew} {action : Action} {number : Nat}

/-! ## Turns -/

/-- What an action of a crew does to the stage of one of its loops. -/
inductive Turn (queueOf : Nat → String) (action : Action) (number : Nat) :
    Stage ReaderRef Delivery → Stage ReaderRef Delivery → Prop where
  | stays (stage : Stage ReaderRef Delivery) : Turn queueOf action number stage stage
  | dropped (stage : Stage ReaderRef Delivery) : Turn queueOf action number stage (.exited none)
  | takes {stage later : Stage ReaderRef Delivery} {input : Input ReaderRef Delivery}
      (origin : action = .take number input ∨ input.isReply)
      (reads : ∀ reader, input = .opened (.ok reader) → reader.queue = queueOf number)
      (move : Move stage input later) : Turn queueOf action number stage later

theorem turn_feed (crew : Crew) (input : Input ReaderRef Delivery)
    (origin : action = .take number input ∨ input.isReply)
    (reads : ∀ reader, input = .opened (.ok reader) → reader.queue = queueOf number)
    (other : Nat) :
    Turn queueOf action other (crew.loops other).stage
      ((crew.feed number input).loops other).stage := by
  unfold feed
  split
  case h_1 stage next =>
    split
    · by_cases same : other = number
      · subst same
        simp only [enter, Function.update_self]
        exact .takes origin reads (.of_next? next)
      · simp only [enter, Function.update_of_ne same]
        exact .stays _
    · exact .stays _
  case h_2 => exact .stays _

/-- **Whatever happens to a crew**, each loop stays, is dropped, or makes a move. -/
theorem turn_act (queueOf : Nat → String) (crew : Crew) (action : Action) (number : Nat) :
    Turn queueOf action number (crew.loops number).stage
      ((crew.act queueOf action).loops number).stage := by
  cases action with
  | publish queue body => exact .stays _
  | interrupt queue => exact .stays _
  | setUnavailable isUnavailable => exact .stays _
  | closeBroker => exact .stays _
  | cancel other =>
    by_cases same : number = other
    · subst same
      simp only [act, Function.update_self]
      exact .stays _
    · simp only [act, Function.update_of_ne same]
      exact .stays _
  | take other input =>
    simp only [act]
    split
    · exact .stays _
    case isFalse own =>
      refine turn_feed crew input (.inl rfl) (fun reader opened => ?_) number
      subst opened
      exact absurd rfl own
  | openReader other =>
    simp only [act]
    split
    case h_1 =>
      split
      case h_1 reader exchange given =>
        refine turn_feed { crew with journal := { crew.journal with exchange } }
          (.opened (.ok reader)) (.inr rfl) (fun reader' opened => ?_) number
        cases opened
        exact Exchange.queue_of_opened given
      case h_2 fault refused =>
        exact turn_feed crew (.opened (.error fault)) (.inr rfl) (fun _ same => by cases same)
          number
    case h_2 => exact .stays _
  | takeTurn other =>
    simp only [act]
    split
    case h_1 reader reading =>
      split
      case isTrue =>
        let later : Crew := { crew with journal := crew.journal.takeTurn ⟨other, reader⟩ }
        split
        case h_1 delivery _ =>
          exact turn_feed later (.received (.ok delivery)) (.inr rfl) (fun _ same => by cases same)
            number
        case h_2 fault _ =>
          exact turn_feed later (.received (.error fault)) (.inr rfl) (fun _ same => by cases same)
            number
        case h_3 => exact .stays _
      case isFalse => exact .stays _
    case h_2 => exact .stays _
  | drop other =>
    by_cases same : number = other
    · subst same
      simp only [act, Function.update_self]
      exact .dropped _
    · simp only [act, Function.update_of_ne same]
      exact .stays _

/-! ## Loops keep to their queues -/

/-- The reader of a loop reads the loop's queue. -/
def Reads (queueOf : Nat → String) (crew : Crew) : Prop :=
  ∀ number reader, (crew.loops number).stage.reader? = some reader → reader.queue = queueOf number

theorem reads_fresh (queueOf : Nat → String) : fresh.Reads queueOf := nofun

theorem Reads.act (reads : crew.Reads queueOf) (action : Action) :
    (crew.act queueOf action).Reads queueOf := by
  intro number reader has
  have turn := turn_act queueOf crew action number
  generalize before : (crew.loops number).stage = earlier at turn
  generalize ((crew.act queueOf action).loops number).stage = later at turn has
  cases turn with
  | stays => exact reads number reader (before ▸ has)
  | dropped => cases has
  | takes origin opens move =>
    rcases move.reader?_cases has with had | opened
    · exact reads number reader (before ▸ had)
    · exact opens reader opened

/-- The reader of a loop that has a message in hand is open. -/
theorem Tended.exists_open (tended : crew.Tended) {delivery : Delivery}
    (unsettled : (crew.loops number).stage.unsettled? = some delivery) :
    ∃ state, crew.journal.broker.openReader? delivery.reader = some state := by
  have hands := tended.holds number _ (tended.owns number delivery unsettled)
  cases found : crew.journal.broker.openReader? delivery.reader with
  | none => simp [unsettled, Broker.inHands, found] at hands
  | some state => exact ⟨state, rfl⟩

/-- **One loop at most has a message in hand** that is not acknowledged yet, on a queue on which one
reader at most is open. -/
theorem Tended.eq_of_unsettled (tended : crew.Tended) (reads : crew.Reads queueOf) {queue : String}
    (single : (crew.journal.broker.queue queue).readers.size ≤ 1) {first second : Nat}
    (here : queueOf first = queue) (there : queueOf second = queue)
    (busy : (crew.loops first).stage.unsettled?.isSome)
    (busy' : (crew.loops second).stage.unsettled?.isSome) : first = second := by
  obtain ⟨delivery, unsettled⟩ := Option.isSome_iff_exists.1 busy
  obtain ⟨delivery', unsettled'⟩ := Option.isSome_iff_exists.1 busy'
  have owns := tended.owns first delivery unsettled
  have owns' := tended.owns second delivery' unsettled'
  obtain ⟨state, found⟩ := tended.exists_open unsettled
  obtain ⟨state', found'⟩ := tended.exists_open unsettled'
  have name : delivery.reader.queue = queue := (reads first _ owns).trans here
  have name' : delivery'.reader.queue = queue := (reads second _ owns').trans there
  rw [Broker.openReader?, name] at found
  rw [Broker.openReader?, name'] at found'
  have number : delivery.reader.number = delivery'.reader.number :=
    Table.eq_of_size_le_one single found found'
  have same : delivery.reader = delivery'.reader := by
    generalize delivery.reader = reader at name number
    generalize delivery'.reader = reader' at name' number
    cases reader
    cases reader'
    exact congrArg₂ ReaderRef.mk (name.trans name'.symm) number
  exact tended.apart first second _ owns (same ▸ owns')

end Crew

end Consumer

end Turnstile
