import Mathlib.Logic.Function.Basic
import Turnstile.Proofs.Broker.Order
import Turnstile.Proofs.Broker.Readers
import Turnstile.Proofs.Consumer.Run

/-!
# Consumer loops at the in-memory broker

A **crew** is a broker with consumer loops at it, as many as one likes, each with a queue of its
own choice. The broker answers the calls of the loops: it opens their readers, gives their reads
their turns, takes their acknowledgments, and closes their readers. Everything else comes from
outside and at any time: messages are published, readers are broken, the broker refuses readers or
is closed, loops are cancelled, inspections and admissions take as long as they take, and a loop can
be dropped together with its reader. A loop that has ended is followed by another one, with another
number.

The crew is **tended** if every open reader of a loop holds what that loop has received and not yet
acknowledged, and nothing else (`Crew.Tended`). Every run keeps it so (`Crew.tended_run`); in
particular every acknowledgment settles its message.
-/

set_option autoImplicit false

namespace Turnstile.Consumer

/-- The message that was received and is not acknowledged yet. -/
def Stage.unsettled? {ρ μ : Type} : Stage ρ μ → Option μ
  | .inspecting _ message => some message
  | .awaiting _ message _ => some message
  | .dispatching _ message _ => some message
  | _ => none

/-- Whether the input is the reply of a broker. -/
def Input.isReply {ρ μ : Type} : Input ρ μ → Bool
  | .opened _ => true
  | .received _ => true
  | _ => false

/-- A broker with what has happened to it, and the loops at it. -/
structure Crew where
  journal : Journal Nat
  loops : Nat → Loop ReaderRef Delivery

namespace Crew

/-! ## What a crew does -/

/-- What happens to a crew. -/
inductive Action where
  | publish (queue body : String)
  | interrupt (queue : String)
  | setUnavailable (isUnavailable : Bool)
  | closeBroker
  | cancel (number : Nat)
  /-- A loop takes an input that is no reply of the broker. -/
  | take (number : Nat) (input : Input ReaderRef Delivery)
  /-- A loop that waits for a reader is answered. -/
  | openReader (number : Nat)
  /-- The read of a loop has its turn. -/
  | takeTurn (number : Nat)
  /-- A loop is dropped, and its reader with it. -/
  | drop (number : Nat)

/-- The crew at its start, when no loop has had its first turn. -/
def fresh : Crew := ⟨.fresh, fun _ => .start false⟩

/-- Carry out a call of a loop, as far as it concerns the broker. A loop that closes its reader has
given up its read. -/
def carryOut (journal : Journal Nat) (number : Nat) :
    Option (Call ReaderRef Delivery) → Journal Nat
  | some (.read reader) => journal.act (.beginRead ⟨number, reader⟩)
  | some (.acknowledge delivery) => journal.acknowledge delivery
  | some (.close reader) => (journal.act (.withdraw number)).act (.closeReader reader)
  | _ => journal

/-- Bring a loop to a stage, and carry out the call it makes there. -/
def enter (crew : Crew) (number : Nat) (input : Input ReaderRef Delivery)
    (stage : Stage ReaderRef Delivery) : Crew where
  journal := carryOut crew.journal number stage.call?
  loops := Function.update crew.loops number ((crew.loops number).enter input stage)

/-- Give a loop an input. -/
def feed (crew : Crew) (number : Nat) (input : Input ReaderRef Delivery) : Crew :=
  match (crew.loops number).stage.next? input with
  | some stage =>
    if input.agrees (crew.loops number).isCancelled then crew.enter number input stage else crew
  | none => crew

/-- The crew after an action; loops read the queues that are given. -/
def act (queueOf : Nat → String) (crew : Crew) : Action → Crew
  | .publish queue body => { crew with journal := crew.journal.act (.publish queue body) }
  | .interrupt queue => { crew with journal := crew.journal.act (.interrupt queue) }
  | .setUnavailable isUnavailable =>
    { crew with journal := crew.journal.act (.setUnavailable isUnavailable) }
  | .closeBroker => { crew with journal := crew.journal.act .close }
  | .cancel number =>
    { crew with
      loops := Function.update crew.loops number
        { crew.loops number with isCancelled := true } }
  | .take number input => if input.isReply then crew else crew.feed number input
  | .openReader number =>
    match (crew.loops number).stage with
    | .opening =>
      match crew.journal.exchange.openReader (queueOf number) with
      | .ok (reader, exchange) =>
        { crew with journal := { crew.journal with exchange } }.feed number (.opened (.ok reader))
      | .error fault => crew.feed number (.opened (.error fault))
    | _ => crew
  | .takeTurn number =>
    match (crew.loops number).stage with
    | .reading reader =>
      if ⟨number, reader⟩ ∈ crew.journal.exchange.woken then
        let later := { crew with journal := crew.journal.takeTurn ⟨number, reader⟩ }
        match (crew.journal.broker.read reader).1 with
        | .delivered delivery => later.feed number (.received (.ok delivery))
        | .failed fault => later.feed number (.received (.error fault))
        | .waits => later
      else crew
    | _ => crew
  | .drop number =>
    { journal := carryOut crew.journal number ((crew.loops number).stage.reader?.map .close)
      loops := Function.update crew.loops number
        { crew.loops number with stage := .exited none } }

/-- The crew after a list of actions. -/
def run (queueOf : Nat → String) (actions : List Action) : Crew :=
  actions.foldl (act queueOf) fresh

/-! ## What the broker does for a loop -/

variable {journal : Journal Nat} {number : Nat}

/-- What carrying out a call does to the messages in hand. -/
theorem broker_carryOut (journal : Journal Nat) (number : Nat)
    (call : Option (Call ReaderRef Delivery)) :
    (carryOut journal number call).broker = match call with
      | some (.acknowledge delivery) => journal.broker.acknowledge delivery
      | some (.close reader) => journal.broker.closeReader reader
      | _ => journal.broker := by
  cases call with
  | none => rfl
  | some call =>
    cases call with
    | close reader => exact Exchange.broker_closeReader _ _
    | _ => rfl

theorem nextReader_carryOut (journal : Journal Nat) (number : Nat)
    (call : Option (Call ReaderRef Delivery)) :
    (carryOut journal number call).broker.nextReader = journal.broker.nextReader := by
  rw [broker_carryOut]
  split
  · exact Broker.nextReader_acknowledge _ _
  · exact Broker.nextReader_closeReader _ _
  · rfl

/-! ## Crews that are tended -/

/-- Every loop has a reader of its own, which holds what the loop has received and not yet
acknowledged; and every acknowledgment has settled its message. -/
structure Tended (crew : Crew) : Prop where
  holds : ∀ number reader, (crew.loops number).stage.reader? = some reader →
    crew.journal.broker.inHands reader =
      ((crew.loops number).stage.unsettled?.map (·.message)).toList
  owns : ∀ number delivery, (crew.loops number).stage.unsettled? = some delivery →
    (crew.loops number).stage.reader? = some delivery.reader
  known : ∀ number reader, (crew.loops number).stage.reader? = some reader →
    reader.number < crew.journal.broker.nextReader
  apart : ∀ first second reader, (crew.loops first).stage.reader? = some reader →
    (crew.loops second).stage.reader? = some reader → first = second
  settles : crew.journal.acknowledged = crew.journal.settled

namespace Tended

variable {crew : Crew} {loop : Loop ReaderRef Delivery} {reader : ReaderRef}

theorem fresh : Crew.fresh.Tended := by
  refine ⟨?_, ?_, ?_, ?_, rfl⟩ <;> simp [Crew.fresh, Loop.start, Stage.reader?, Stage.unsettled?]

/-- What leaves alone what the readers of the loops hold. -/
theorem of_journal (tended : crew.Tended) (hands : ∀ reader : ReaderRef,
      reader.number < crew.journal.broker.nextReader →
      journal.broker.inHands reader = crew.journal.broker.inHands reader)
    (more : crew.journal.broker.nextReader ≤ journal.broker.nextReader)
    (settles : journal.acknowledged = journal.settled) :
    ({ crew with journal } : Crew).Tended where
  holds := fun number reader has =>
    (hands reader (tended.known number reader has)).trans (tended.holds number reader has)
  owns := tended.owns
  known := fun number reader has => Nat.lt_of_lt_of_le (tended.known number reader has) more
  apart := tended.apart
  settles := settles

/-- A step of one loop concerns its reader alone: what the readers of the others hold stays, and
its own reader, if it has one, is nobody else's and holds what the loop has in hand. -/
theorem update (tended : crew.Tended) {number : Nat}
    (others : ∀ other reader, other ≠ number → (crew.loops other).stage.reader? = some reader →
      journal.broker.inHands reader = crew.journal.broker.inHands reader)
    (more : crew.journal.broker.nextReader ≤ journal.broker.nextReader)
    (settles : journal.acknowledged = journal.settled)
    (owns : ∀ delivery, loop.stage.unsettled? = some delivery →
      loop.stage.reader? = some delivery.reader)
    (here : ∀ reader, loop.stage.reader? = some reader →
      journal.broker.inHands reader = (loop.stage.unsettled?.map (·.message)).toList ∧
      reader.number < journal.broker.nextReader ∧
      ∀ other, other ≠ number → (crew.loops other).stage.reader? ≠ some reader) :
    Tended ⟨journal, Function.update crew.loops number loop⟩ := by
  have at_self :
      (⟨journal, Function.update crew.loops number loop⟩ : Crew).loops number = loop :=
    Function.update_self number loop crew.loops
  have at_other : ∀ {other}, other ≠ number →
      (⟨journal, Function.update crew.loops number loop⟩ : Crew).loops other = crew.loops other :=
    fun different => Function.update_of_ne different _ _
  refine ⟨fun other reader has => ?_, fun other delivery has => ?_, fun other reader has => ?_,
    fun first second reader has has' => ?_, settles⟩
  · by_cases same : other = number
    · subst same
      rw [at_self] at has ⊢
      exact (here reader has).1
    · rw [at_other same] at has ⊢
      exact (others other reader same has).trans (tended.holds other reader has)
  · by_cases same : other = number
    · subst same
      rw [at_self] at has ⊢
      exact owns delivery has
    · rw [at_other same] at has ⊢
      exact tended.owns other delivery has
  · by_cases same : other = number
    · subst same
      rw [at_self] at has
      exact (here reader has).2.1
    · rw [at_other same] at has
      exact Nat.lt_of_lt_of_le (tended.known other reader has) more
  · by_cases isFirst : first = number
    · by_cases isSecond : second = number
      · rw [isFirst, isSecond]
      · rw [isFirst, at_self] at has
        rw [at_other isSecond] at has'
        exact absurd has' ((here reader has).2.2 second isSecond)
    · by_cases isSecond : second = number
      · rw [isSecond, at_self] at has'
        rw [at_other isFirst] at has
        exact absurd has ((here reader has').2.2 first isFirst)
      · rw [at_other isFirst] at has
        rw [at_other isSecond] at has'
        exact tended.apart first second reader has has'

/-- A step of a loop that lets go of its reader, or has none. -/
theorem update_unowned (tended : crew.Tended) {number : Nat} (none : loop.stage.reader? = none)
    (idle : loop.stage.unsettled? = Option.none)
    (others : ∀ other reader, other ≠ number → (crew.loops other).stage.reader? = some reader →
      journal.broker.inHands reader = crew.journal.broker.inHands reader)
    (more : crew.journal.broker.nextReader ≤ journal.broker.nextReader)
    (settles : journal.acknowledged = journal.settled) :
    Tended ⟨journal, Function.update crew.loops number loop⟩ := by
  refine tended.update others more settles (fun delivery has => ?_) (fun reader has => ?_)
  · rw [idle] at has
    cases has
  · rw [none] at has
    cases has

/-- A step of a loop that goes on with its reader. -/
theorem update_owned (tended : crew.Tended) {number : Nat}
    (had : (crew.loops number).stage.reader? = some reader)
    (has : loop.stage.reader? = some reader)
    (owns : ∀ delivery, loop.stage.unsettled? = some delivery → delivery.reader = reader)
    (hands : journal.broker.inHands reader = (loop.stage.unsettled?.map (·.message)).toList)
    (others : ∀ other, other ≠ reader →
      journal.broker.inHands other = crew.journal.broker.inHands other)
    (more : crew.journal.broker.nextReader ≤ journal.broker.nextReader)
    (settles : journal.acknowledged = journal.settled) :
    Tended ⟨journal, Function.update crew.loops number loop⟩ := by
  have alone : ∀ other, other ≠ number → (crew.loops other).stage.reader? ≠ some reader :=
    fun other different has => different (tended.apart other number reader has had)
  refine tended.update (fun other reader' different has => ?_) more settles
    (fun delivery unsettled => ?_) (fun reader' same => ?_)
  · exact others reader' fun same => alone other different (same ▸ has)
  · rw [owns delivery unsettled]
    exact has
  · obtain rfl : reader = reader' := Option.some.inj (has.symm.trans same)
    exact ⟨hands, Nat.lt_of_lt_of_le (tended.known number reader had) more, alone⟩

/-- A loop that closes its reader. -/
theorem enter_closing (tended : crew.Tended) {number : Nat} {input : Input ReaderRef Delivery}
    (had : (crew.loops number).stage.reader? = some reader) (resumes : Bool) :
    (crew.enter number input (.closing reader resumes)).Tended := by
  have broker : (carryOut crew.journal number (some (.close reader))).broker =
      crew.journal.broker.closeReader reader := broker_carryOut _ _ _
  refine tended.update_owned had rfl (fun _ unsettled => nomatch unsettled) ?_
    (fun other different => ?_) (Nat.le_of_eq (nextReader_carryOut _ _ _).symm) tended.settles
  · rw [Stage.call?, broker, Broker.inHands, Broker.openReader?_closeReader_self]
    rfl
  · rw [Stage.call?, broker, Broker.inHands, Broker.openReader?_closeReader_of_ne _ different]
    rfl

/-- A loop that acknowledges the message it has in hand. -/
theorem enter_acknowledging (tended : crew.Tended) {number : Nat} {input : Input ReaderRef Delivery}
    {delivery : Delivery} (had : (crew.loops number).stage.reader? = some reader)
    (unsettled : (crew.loops number).stage.unsettled? = some delivery) :
    (crew.enter number input (.acknowledging reader delivery)).Tended := by
  obtain rfl : delivery.reader = reader :=
    Option.some.inj ((tended.owns number delivery unsettled).symm.trans had)
  have hands : crew.journal.broker.inHands delivery.reader = [delivery.message] := by
    rw [tended.holds number _ had, unsettled]
    rfl
  obtain ⟨held, emptied⟩ := Broker.acknowledge_of_inHands hands
  have broker : (carryOut crew.journal number (some (.acknowledge delivery))).broker =
      crew.journal.broker.acknowledge delivery := broker_carryOut _ _ _
  refine tended.update_owned had rfl (fun _ unsettled => nomatch unsettled) ?_
    (fun other different => ?_) (Nat.le_of_eq (nextReader_carryOut _ _ _).symm) ?_
  · rw [Stage.call?, broker]
    exact emptied
  · rw [Stage.call?, broker, Broker.inHands, Broker.openReader?_acknowledge_of_ne _ different]
    rfl
  · show crew.journal.acknowledged ++ [delivery] = crew.journal.settled ++ _
    rw [tended.settles, held]
    rfl

/-- A loop that goes on to a stage at which it asks nothing of the broker but a read. -/
theorem enter_of_same (tended : crew.Tended) {number : Nat} {input : Input ReaderRef Delivery}
    {stage : Stage ReaderRef Delivery} (had : (crew.loops number).stage.reader? = some reader)
    (has : stage.reader? = some reader)
    (same : stage.unsettled? = (crew.loops number).stage.unsettled?)
    (quiet : (carryOut crew.journal number stage.call?).broker = crew.journal.broker)
    (settles : (carryOut crew.journal number stage.call?).acknowledged =
      (carryOut crew.journal number stage.call?).settled) :
    (crew.enter number input stage).Tended := by
  refine tended.update_owned had has (fun delivery unsettled => ?_) ?_ (fun _ _ => by rw [quiet])
    (Nat.le_of_eq (by rw [quiet])) settles
  · have before : stage.unsettled? = some delivery := unsettled
    rw [same] at before
    exact Option.some.inj ((tended.owns number delivery before).symm.trans had)
  · show _ = (stage.unsettled?.map _).toList
    rw [quiet, same]
    exact tended.holds number reader had

/-- A loop that has no reader and asks for nothing but a reader. -/
theorem enter_without_reader (tended : crew.Tended) {number : Nat}
    {input : Input ReaderRef Delivery} {stage : Stage ReaderRef Delivery}
    (none : stage.reader? = none)
    (idle : stage.unsettled? = Option.none)
    (quiet : carryOut crew.journal number stage.call? = crew.journal) :
    (crew.enter number input stage).Tended := by
  refine tended.update_unowned none idle (fun _ _ _ _ => by rw [quiet])
    (Nat.le_of_eq (by rw [quiet])) ?_
  rw [quiet]
  exact tended.settles

theorem enter_begin (tended : crew.Tended) (number : Nat) (input : Input ReaderRef Delivery)
    (isCancelled : Bool) : (crew.enter number input (.begin isCancelled)).Tended := by
  cases isCancelled with
  | false => exact tended.enter_without_reader rfl rfl rfl
  | true => exact tended.enter_without_reader rfl rfl rfl

/-- A move that brings nothing from the broker keeps the crew tended. -/
theorem enter (tended : crew.Tended) {number : Nat} {input : Input ReaderRef Delivery}
    {stage : Stage ReaderRef Delivery} (move : Move (crew.loops number).stage input stage)
    (notOpened : ∀ reader, input ≠ .opened (.ok reader))
    (notReceived : ∀ delivery, input ≠ .received (.ok delivery)) :
    (crew.enter number input stage).Tended := by
  generalize before : (crew.loops number).stage = earlier at move
  cases move with
  | began isCancelled => exact tended.enter_begin number _ isCancelled
  | opened reader => exact absurd rfl (notOpened reader)
  | unopened fault => exact tended.enter_without_reader rfl rfl rfl
  | leaveOpening => exact tended.enter_without_reader rfl rfl rfl
  | received reader delivery => exact absurd rfl (notReceived delivery)
  | failed reader fault =>
    exact tended.enter_closing (congrArg Stage.reader? before) true
  | leaveReading reader =>
    exact tended.enter_closing (congrArg Stage.reader? before) false
  | discarded reader delivery =>
    exact tended.enter_acknowledging (congrArg Stage.reader? before)
      (congrArg Stage.unsettled? before)
  | wanted reader delivery work =>
    exact tended.enter_of_same (congrArg Stage.reader? before) rfl
      (congrArg Stage.unsettled? before).symm rfl tended.settles
  | leaveInspecting reader delivery =>
    exact tended.enter_closing (congrArg Stage.reader? before) false
  | admitted reader delivery work =>
    exact tended.enter_of_same (congrArg Stage.reader? before) rfl
      (congrArg Stage.unsettled? before).symm rfl tended.settles
  | leaveAwaiting reader delivery work =>
    exact tended.enter_closing (congrArg Stage.reader? before) false
  | dispatched reader delivery work =>
    exact tended.enter_acknowledging (congrArg Stage.reader? before)
      (congrArg Stage.unsettled? before)
  | acknowledged reader delivery =>
    exact tended.enter_of_same (congrArg Stage.reader? before) rfl
      (congrArg Stage.unsettled? before).symm rfl tended.settles
  | closed reader resumes isCancelled => exact tended.enter_begin number _ _

/-- An input that brings nothing from the broker keeps the crew tended. -/
theorem feed (tended : crew.Tended) (number : Nat) {input : Input ReaderRef Delivery}
    (notOpened : ∀ reader, input ≠ .opened (.ok reader))
    (notReceived : ∀ delivery, input ≠ .received (.ok delivery)) :
    (crew.feed number input).Tended := by
  unfold Crew.feed
  split
  case h_1 stage next =>
    split
    · exact tended.enter (.of_next? next) notOpened notReceived
    · exact tended
  case h_2 => exact tended

/-- A loop that is given a reader: it is a new one, so nobody else has it. -/
theorem openReader (tended : crew.Tended) {number : Nat} {name : String}
    {exchange : Exchange Nat} (waits : (crew.loops number).stage = .opening)
    (given : crew.journal.exchange.openReader name = .ok (reader, exchange)) :
    ({ crew with journal := { crew.journal with exchange } }.feed number
      (.opened (.ok reader)) : Crew).Tended := by
  have fed : ({ crew with journal := { crew.journal with exchange } }.feed number
      (.opened (.ok reader)) : Crew) =
      { crew with journal := { crew.journal with exchange } }.enter number (.opened (.ok reader))
        (.reading reader) := by
    simp [Crew.feed, waits, Stage.next?, Input.agrees]
  obtain ⟨broker, accepted, rfl⟩ : ∃ broker,
      crew.journal.broker.openReader name = .ok (reader, broker) ∧
      exchange = { crew.journal.exchange with broker } := by
    unfold Exchange.openReader at given
    split at given
    · cases given
    · cases given
      exact ⟨_, ‹_›, rfl⟩
  obtain ⟨new, empty, others, next⟩ := Broker.openReader?_of_opened accepted
  have fresh : reader.number = crew.journal.broker.nextReader := congrArg ReaderRef.number new
  have unknown : ∀ other, (crew.loops other).stage.reader? ≠ some reader := by
    intro other has
    have earlier := tended.known other reader has
    rw [fresh] at earlier
    exact Nat.lt_irrefl _ earlier
  rw [fed]
  refine tended.update (fun other reader' _ has => ?_) ?_ tended.settles
    (fun _ unsettled => by cases unsettled) (fun reader' has => ?_)
  · show broker.inHands reader' = _
    rw [Broker.inHands, others reader' fun same => unknown other (same ▸ has)]
    rfl
  · exact Nat.le_of_lt (Nat.lt_of_lt_of_eq (Nat.lt_succ_self _) next.symm)
  · obtain rfl : reader = reader' := Option.some.inj has
    refine ⟨Broker.inHands_of_openReader? empty, ?_, fun other _ => unknown other⟩
    show reader.number < broker.nextReader
    rw [fresh, next]
    exact Nat.lt_succ_self _

/-- The turn of a read: it waits, fails, or brings a message into the hands of its loop. -/
theorem takeTurn (queueOf : Nat → String) (tended : crew.Tended) (number : Nat) :
    (crew.act queueOf (.takeTurn number)).Tended := by
  simp only [Crew.act]
  split
  case h_1 reader waits =>
    split
    case isTrue =>
      have broker := crew.journal.broker_takeTurn ⟨number, reader⟩
      have had : (crew.loops number).stage.reader? = some reader := congrArg Stage.reader? waits
      rcases crew.journal.broker.inHands_read reader with
        ⟨nothing, same⟩ | ⟨message, delivered, hands, others⟩
      · have later : Tended { crew with journal := crew.journal.takeTurn ⟨number, reader⟩ } :=
          tended.of_journal (fun _ _ => by rw [broker, same])
            (Nat.le_of_eq (by rw [broker, same])) tended.settles
        split
        case h_1 delivery delivered =>
          rw [delivered] at nothing
          cases nothing
        case h_2 fault failed =>
          exact later.feed number (fun _ => nofun) (fun _ => nofun)
        case h_3 => exact later
      · have before := tended.holds number reader had
        simp only [delivered]
        have fed : ({ crew with journal := crew.journal.takeTurn ⟨number, reader⟩ }.feed number
            (.received (.ok ⟨reader, message⟩)) : Crew) =
            { crew with journal := crew.journal.takeTurn ⟨number, reader⟩ }.enter number
              (.received (.ok ⟨reader, message⟩)) (.inspecting reader ⟨reader, message⟩) := by
          simp [Crew.feed, waits, Stage.next?, Input.agrees]
        rw [fed]
        refine tended.update_owned had rfl (fun delivery unsettled => ?_) ?_ ?_ ?_ tended.settles
        · cases unsettled
          rfl
        · show (crew.journal.takeTurn ⟨number, reader⟩).broker.inHands reader = [message]
          rw [broker, hands, before, waits]
          rfl
        · intro other different
          show (crew.journal.takeTurn ⟨number, reader⟩).broker.inHands other = _
          rw [broker, others other different]
        · refine Nat.le_of_eq ?_
          show _ = (crew.journal.takeTurn ⟨number, reader⟩).broker.nextReader
          rw [broker, Broker.nextReader_read]
    case isFalse => exact tended
  case h_2 => exact tended

/-- A loop that is dropped lets go of its reader. -/
theorem drop (queueOf : Nat → String) (tended : crew.Tended) (number : Nat) :
    (crew.act queueOf (.drop number)).Tended := by
  cases had : (crew.loops number).stage.reader? with
  | none =>
    simp only [Crew.act, had]
    exact tended.update_unowned rfl rfl (fun _ _ _ _ => rfl) (Nat.le_refl _) tended.settles
  | some reader =>
    simp only [Crew.act, had]
    have broker : (carryOut crew.journal number (some (.close reader))).broker =
        crew.journal.broker.closeReader reader := broker_carryOut _ _ _
    refine tended.update_unowned rfl rfl (fun other reader' different has => ?_)
      (Nat.le_of_eq (nextReader_carryOut _ _ _).symm) tended.settles
    have apart : reader' ≠ reader := fun same =>
      different (tended.apart other number reader (same ▸ has) had)
    rw [Option.map_some, broker, Broker.inHands, Broker.openReader?_closeReader_of_ne _ apart]
    rfl

theorem cancel (queueOf : Nat → String) (tended : crew.Tended) (number : Nat) :
    (crew.act queueOf (.cancel number)).Tended := by
  refine tended.update (fun _ _ _ _ => rfl) (Nat.le_refl _) tended.settles
    (tended.owns number) (fun reader has => ⟨tended.holds number reader has,
      tended.known number reader has, fun other different has' => ?_⟩)
  exact different (tended.apart other number reader has' has)

/-- **Whatever happens, a crew stays tended.** -/
theorem act (queueOf : Nat → String) (tended : crew.Tended) (action : Action) :
    (crew.act queueOf action).Tended := by
  cases action with
  | publish queue body =>
    exact tended.of_journal (fun _ _ => Broker.inHands_publish _ _ _ _) (Nat.le_refl _)
      tended.settles
  | interrupt queue =>
    exact tended.of_journal (fun _ _ => Broker.inHands_interrupt _ _ _) (Nat.le_refl _)
      tended.settles
  | setUnavailable isUnavailable =>
    exact tended.of_journal (fun _ _ => rfl) (Nat.le_refl _) tended.settles
  | closeBroker =>
    exact tended.of_journal (fun _ _ => Broker.inHands_close _ _) (Nat.le_refl _) tended.settles
  | cancel number => exact tended.cancel queueOf number
  | take number input =>
    simp only [Crew.act]
    split
    · exact tended
    · rename_i own
      refine tended.feed number (fun _ same => ?_) (fun _ same => ?_) <;> subst same <;>
        exact own rfl
  | openReader number =>
    simp only [Crew.act]
    split
    case h_1 waits =>
      split
      case h_1 reader exchange given => exact tended.openReader waits given
      case h_2 fault refused => exact tended.feed number (fun _ => nofun) (fun _ => nofun)
    case h_2 => exact tended
  | takeTurn number => exact tended.takeTurn queueOf number
  | drop number => exact tended.drop queueOf number

end Tended

theorem tended_run (queueOf : Nat → String) (actions : List Action) :
    (run queueOf actions).Tended := by
  induction actions using List.reverseRecOn with
  | nil => exact .fresh
  | append_singleton earlier action ih =>
    rw [run, List.foldl_append]
    exact ih.act queueOf action

end Crew

end Turnstile.Consumer
