import Mathlib.Data.List.Infix
import Turnstile.Proofs.Consumer.Crew

/-!
# A queue that is consumed in order

A queue on which never more than one reader is open is consumed in order, whatever happens to the
loops that read it: however often they are cancelled, reconnect or are dropped, and whoever comes
after them. At any time the messages acknowledged so far, then the one that is in flight, if any,
then those that are ready, are the messages that were published, in that order
(`Crew.acknowledged_in_order`). So a message that is delivered again comes in its place, none is
passed over, and none is acknowledged twice.

A loop reads only when it has no message in hand. With one reader at most on the queue, nothing is
in flight there when a message is delivered.
-/

set_option autoImplicit false

namespace Turnstile

/-- A queue with one reader at most, which holds nothing, has nothing in flight. -/
theorem Queue.inFlight_eq_nil {queue : Queue} {number : Nat} {state : OpenReader}
    (single : queue.readers.size ≤ 1) (found : queue.readers.get? number = some state)
    (nothing : state.inFlight = []) : queue.inFlight = [] := by
  simp [Queue.inFlight, Table.values, Table.bindings_of_size_le_one single found, nothing]

/-- A queue that is in order, with nothing missing and the acknowledgments remembered. -/
structure Ledger.Sound (ledger : Ledger) : Prop where
  balanced : ledger.Balanced
  ordered : ledger.InOrder
  remembers : ledger.Remembers

namespace Ledger.Sound

variable {name : String} {ledger later : Ledger}

theorem unused : Ledger.unused.Sound := ⟨.unused, .unused, .unused⟩

theorem of_change (sound : ledger.Sound) (change : ledger.Change name later)
    (alone : later.delivered = ledger.delivered ∨ ledger.queue.inFlight = []) : later.Sound where
  balanced := sound.balanced.of_change change
  ordered := sound.ordered.of_change sound.balanced change alone
  remembers := sound.remembers.of_change change

/-- An action that delivers nothing. -/
theorem act {α : Type} [DecidableEq α] {journal : Journal α} (sound : (journal.ledger name).Sound)
    (action : Turnstile.Action α)
    (undelivered : (journal.act action).delivered = journal.delivered) :
    ((journal.act action).ledger name).Sound :=
  sound.of_change (journal.ledger_change action name) (.inl (by simp [Journal.ledger, undelivered]))

end Ledger.Sound

namespace Consumer.Crew

variable {name : String} {journal : Journal Nat} {crew : Crew}

/-! ## Steps of a crew and the ledger of a queue -/

/-- No call of a loop delivers anything at once. -/
theorem sound_carryOut (sound : (journal.ledger name).Sound) (number : Nat)
    (call : Option (Call ReaderRef Delivery)) :
    ((carryOut journal number call).ledger name).Sound := by
  cases call with
  | none => exact sound
  | some call =>
    cases call with
    | read reader => exact sound.act (.beginRead ⟨number, reader⟩) rfl
    | acknowledge delivery =>
      exact sound.of_change (journal.change_acknowledge delivery name) (.inl rfl)
    | close reader => exact (sound.act (.withdraw number) rfl).act (.closeReader reader) rfl
    | _ => exact sound

theorem sound_feed (sound : (crew.journal.ledger name).Sound) (number : Nat)
    (input : Input ReaderRef Delivery) : ((crew.feed number input).journal.ledger name).Sound := by
  unfold feed
  split
  · split
    · exact sound_carryOut sound number _
    · exact sound
  · exact sound

/-- A turn of a read on a queue with one reader at most delivers while nothing else is in flight. -/
theorem sound_takeTurn (tended : crew.Tended) (sound : (crew.journal.ledger name).Sound)
    (single : (crew.journal.broker.queue name).readers.size ≤ 1) {number : Nat} {reader : ReaderRef}
    (reads : (crew.loops number).stage = .reading reader) :
    ((crew.journal.takeTurn ⟨number, reader⟩).ledger name).Sound := by
  refine sound.of_change (crew.journal.change_takeTurn ⟨number, reader⟩ name) ?_
  have delivered : (crew.journal.takeTurn ⟨number, reader⟩).delivered = crew.journal.delivered ++
      (crew.journal.broker.read reader).1.delivery?.toList :=
    crew.journal.delivered_takeTurn ⟨number, reader⟩
  rcases crew.journal.broker.read_cases reader with
    ⟨nothing, _⟩ | ⟨state, message, ready, found, _, _, read⟩
  · left
    simp [Journal.ledger, delivered, nothing]
  · by_cases here : reader.queue = name
    · right
      subst here
      have hands := tended.holds number reader (congrArg Stage.reader? reads)
      rw [Broker.inHands_of_openReader? found, reads] at hands
      exact Queue.inFlight_eq_nil single found hands
    · left
      simp [Journal.ledger, delivered, read, ReadOutcome.delivery?, here]

/-- **What happens to a crew leaves a queue with one reader at most in order.** -/
theorem sound_act (queueOf : Nat → String) (tended : crew.Tended)
    (sound : (crew.journal.ledger name).Sound)
    (single : (crew.journal.broker.queue name).readers.size ≤ 1) (action : Action) :
    ((crew.act queueOf action).journal.ledger name).Sound := by
  cases action with
  | publish queue body => exact sound.act (.publish queue body) rfl
  | interrupt queue => exact sound.act (.interrupt queue) rfl
  | setUnavailable isUnavailable => exact sound.act (.setUnavailable isUnavailable) rfl
  | closeBroker => exact sound.act .close rfl
  | cancel number => exact sound
  | take number input =>
    simp only [act]
    split
    · exact sound
    · exact sound_feed sound number input
  | openReader number =>
    simp only [act]
    split
    case h_1 =>
      split
      case h_1 reader exchange given =>
        have opens : crew.journal.act (.openReader (queueOf number)) =
            { crew.journal with exchange } := by
          simp only [Journal.act, given]
        have opened : (({ crew.journal with exchange } : Journal Nat).ledger name).Sound :=
          opens ▸ sound.act (.openReader (queueOf number)) (by rw [opens])
        exact @sound_feed name { crew with journal := { crew.journal with exchange } } opened
          number _
      case h_2 fault refused => exact sound_feed sound number _
    case h_2 => exact sound
  | takeTurn number =>
    simp only [act]
    split
    case h_1 reader reads =>
      split
      case isTrue =>
        have later := sound_takeTurn tended sound single reads
        split
        case h_1 => exact @sound_feed name { crew with journal := _ } later number _
        case h_2 => exact @sound_feed name { crew with journal := _ } later number _
        case h_3 => exact later
      case isFalse => exact sound
    case h_2 => exact sound
  | drop number => exact sound_carryOut sound number _

theorem sound_run (queueOf : Nat → String) (name : String) (actions : List Action)
    (single : ∀ earlier, earlier <+: actions →
      ((run queueOf earlier).journal.broker.queue name).readers.size ≤ 1) :
    ((run queueOf actions).journal.ledger name).Sound := by
  induction actions using List.reverseRecOn with
  | nil => exact .unused
  | append_singleton earlier action ih =>
    have before : earlier <+: earlier ++ [action] := List.prefix_append _ _
    have sound := ih fun first shorter => single first (shorter.trans before)
    rw [run, List.foldl_append]
    exact sound_act queueOf (tended_run queueOf earlier) sound (single earlier before) action

/-! ## What was published, acknowledged, in flight and ready -/

/-- **A queue with one reader at most is consumed in order.** As long as never more than one reader
is open on it, the messages that loops have acknowledged, in the order of their acknowledgments,
then what is in flight, which is one message at most, then what is ready, are the messages published
to the queue, in the order of their publication. No message is acknowledged twice, the broker counts
them right, and it remembers the bodies of the last ones. -/
theorem acknowledged_in_order (queueOf : Nat → String) (name : String) (actions : List Action)
    (single : ∀ earlier, earlier <+: actions →
      ((run queueOf earlier).journal.broker.queue name).readers.size ≤ 1) :
    let journal := (run queueOf actions).journal
    let queue := journal.broker.queue name
    let acknowledged :=
      (journal.acknowledged.filter fun delivery => delivery.reader.queue = name).map (·.message)
    acknowledged ++ queue.inFlight ++ queue.ready =
        (journal.published.filter fun posting => posting.queue = name).map (·.message) ∧
      queue.inFlight.length ≤ 1 ∧
      (acknowledged.map (·.tag)).Nodup ∧
      queue.ackedCount = acknowledged.length ∧
      queue.recentAcks =
        (acknowledged.map (·.body)).drop (acknowledged.length - Queue.ackMemory) := by
  intro journal queue acknowledged
  obtain ⟨balanced, ordered, remembers⟩ := sound_run queueOf name actions single
  have settled : (journal.ledger name).settled.map (·.message) = acknowledged := by
    rw [Journal.ledger, ← (tended_run queueOf actions).settles]
  have sequence := ordered.sequence
  have count := congrArg List.length settled
  rw [List.length_map] at count
  refine ⟨settled ▸ sequence, ordered.single, ?_, balanced.counted.trans count, ?_⟩
  · have all := balanced.distinct
    rw [← sequence, settled] at all
    simp only [List.map_append, List.append_assoc] at all
    exact (List.nodup_append.1 all).1
  · have bodies := congrArg (List.map fun message : Message => message.body) settled
    rw [List.map_map] at bodies
    rw [← bodies, ← count]
    exact remembers

/-- A run of two loops. The first is cancelled while it waits for the admission of the first of
three messages. The second gets that message again and acknowledges it, is interrupted, and goes on
with the second message at another reader. -/
def takenOver (work : Work) : List Action :=
  [.publish "jobs" "a", .publish "jobs" "b", .take 0 (.began false), .openReader 0, .takeTurn 0,
    .take 0 (.inspected (.dispatch work)), .cancel 0, .take 0 .cancelled, .publish "jobs" "c",
    .take 0 (.closed true), .take 1 (.began false), .openReader 1, .takeTurn 1,
    .take 1 (.inspected .discard), .take 1 .acknowledged, .interrupt "jobs", .takeTurn 1,
    .take 1 (.closed false), .openReader 1, .takeTurn 1]

theorem taken_over_in_order :
    let actions := takenOver (.worker ⟨"event", by decide +kernel⟩)
    let journal := (run (fun _ => "jobs") actions).journal
    let queue := journal.broker.queue "jobs"
    (∀ earlier, earlier <+: actions →
      ((run (fun _ => "jobs") earlier).journal.broker.queue "jobs").readers.size ≤ 1) ∧
    queue.openedCount = 3 ∧
    journal.acknowledged.map (·.message) = [⟨0, "a"⟩] ∧ queue.inFlight = [⟨1, "b"⟩] ∧
    queue.ready = [⟨2, "c"⟩] ∧
    [⟨0, "a"⟩] ++ queue.inFlight ++ queue.ready = journal.published.map (·.message) := by
  intro actions journal queue
  have all : ∀ earlier ∈ actions.inits,
      ((run (fun _ => "jobs") earlier).journal.broker.queue "jobs").readers.size ≤ 1 := by
    decide +kernel
  have single : ∀ earlier, earlier <+: actions →
      ((run (fun _ => "jobs") earlier).journal.broker.queue "jobs").readers.size ≤ 1 :=
    fun earlier shorter => all earlier ((List.mem_inits _ _).2 shorter)
  refine ⟨single, by decide +kernel, by decide +kernel, by decide +kernel, by decide +kernel, ?_⟩
  obtain ⟨sequence, _⟩ := acknowledged_in_order (fun _ => "jobs") "jobs" actions single
  exact sequence

end Consumer.Crew

end Turnstile
