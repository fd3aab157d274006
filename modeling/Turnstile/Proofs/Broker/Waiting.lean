import Turnstile.Proofs.Broker.Readers

/-!
# Reads that wait have nothing to wait past

A read waits only while there is **nothing** for it: its reader is open and whole, and its queue is
empty. Whatever would end one of these three wakes every read that waits on the queue, so in every
history a read that is waiting, and has not been woken, has nothing (`Journal.isIdle_run`). Whoever
is woken is not forgotten: he waits again, or his read ends, or is given up
(`Journal.isIdle_settle`).
-/

set_option autoImplicit false

namespace Turnstile

/-- A read by the reader finds nothing to deliver and nothing to fail on. -/
def Broker.HasNothing (broker : Broker) (reader : ReaderRef) : Prop :=
  ∃ state, broker.openReader? reader = some state ∧ state.isBroken = false ∧
    (broker.queue reader.queue).ready = []

namespace Broker.HasNothing

variable {broker later : Broker} {reader : ReaderRef}

/-- Only what is known about the reader and what is ready in its queue matters. -/
theorem of_same (nothing : broker.HasNothing reader)
    (known : later.openReader? reader = broker.openReader? reader)
    (ready : (later.queue reader.queue).ready = (broker.queue reader.queue).ready) :
    later.HasNothing reader := by
  obtain ⟨state, found, whole, empty⟩ := nothing
  exact ⟨state, known.trans found, whole, ready.trans empty⟩

/-- What replaces another queue does not matter. -/
theorem setQueue_of_ne (nothing : broker.HasNothing reader) {name : String} (queue : Queue)
    (elsewhere : reader.queue ≠ name) : (broker.setQueue name queue).HasNothing reader := by
  refine nothing.of_same (openReader?_setQueue_of_ne broker queue elsewhere) ?_
  rw [queue_setQueue_of_ne broker queue elsewhere]

theorem read_eq (nothing : broker.HasNothing reader) : broker.read reader = (.waits, broker) := by
  obtain ⟨state, found, whole, empty⟩ := nothing
  simp [read, found, whole, empty]

/-- A read that has to wait has nothing. -/
theorem of_waits (waits : (broker.read reader).1 = .waits) : broker.HasNothing reader := by
  cases found : broker.openReader? reader with
  | none => simp [read, found] at waits
  | some state =>
    cases broken : state.isBroken with
    | true => simp [read, found, broken] at waits
    | false =>
      cases head : (broker.queue reader.queue).ready with
      | nil => exact ⟨state, found, broken, head⟩
      | cons message ready => simp [read, found, broken, head] at waits

end Broker.HasNothing

namespace Exchange

variable {α : Type} {exchange : Exchange α}

theorem attempt_of_hasNothing (exchange : Exchange α) {read : PendingRead α}
    (nothing : exchange.broker.HasNothing read.reader) :
    exchange.attempt read = (.waits, { exchange with waiting := exchange.waiting ++ [read] }) := by
  simp [Exchange.attempt, nothing.read_eq]

theorem attempt_of_ne_waits (exchange : Exchange α) {read : PendingRead α}
    (ends : (exchange.broker.read read.reader).1 ≠ .waits) :
    exchange.attempt read = ((exchange.broker.read read.reader).1,
      { exchange with broker := (exchange.broker.read read.reader).2 }) := by
  unfold Exchange.attempt
  split
  case h_1 waits => simp [waits] at ends
  case h_2 outcome => simp [outcome]

/-- Whoever is woken is still there. -/
theorem wake_perm (exchange : Exchange α) (test : PendingRead α → Bool) :
    ((exchange.wake test).waiting ++ (exchange.wake test).woken).Perm
      (exchange.waiting ++ exchange.woken) := by
  have parts := List.filter_append_perm test exchange.waiting
  have asleep := List.perm_append_comm.trans parts
  show (exchange.waiting.filter _ ++ (exchange.woken ++ exchange.waiting.filter test)).Perm _
  refine (List.perm_append_comm.append_left _).trans ?_
  rw [← List.append_assoc]
  exact asleep.append_right _

/-- All reads that wait have nothing. -/
def IsIdle (exchange : Exchange α) : Prop :=
  ∀ read ∈ exchange.waiting, exchange.broker.HasNothing read.reader

namespace IsIdle

/-- Those that are woken need not have nothing any more. -/
theorem wake (idle : exchange.IsIdle) {broker : Broker} {test : PendingRead α → Bool}
    (kept : ∀ read, test read = false → exchange.broker.HasNothing read.reader →
      broker.HasNothing read.reader) :
    ({ exchange with broker }.wake test).IsIdle := by
  intro read member
  obtain ⟨waits, asleep⟩ := List.mem_filter.1 member
  exact kept read (by simpa using asleep) (idle read waits)

theorem wakeQueue (idle : exchange.IsIdle) {broker : Broker} {name : String}
    (kept : ∀ reader : ReaderRef, reader.queue ≠ name → exchange.broker.HasNothing reader →
      broker.HasNothing reader) :
    ({ exchange with broker }.wakeQueue name).IsIdle :=
  idle.wake fun read asleep nothing => kept read.reader (by simpa using asleep) nothing

theorem publish (idle : exchange.IsIdle) (name body : String) :
    (exchange.publish name body).IsIdle :=
  idle.wakeQueue fun _ elsewhere nothing => nothing.setQueue_of_ne _ elsewhere

theorem interrupt (idle : exchange.IsIdle) (name : String) : (exchange.interrupt name).IsIdle :=
  idle.wakeQueue fun _ elsewhere nothing => nothing.setQueue_of_ne _ elsewhere

theorem close (idle : exchange.IsIdle) : exchange.close.IsIdle :=
  idle.wake fun _ asleep => nomatch asleep

theorem openReader (idle : exchange.IsIdle) {name : String} {reader : ReaderRef}
    {later : Exchange α} (opened : exchange.openReader name = .ok (reader, later)) :
    later.IsIdle := by
  unfold Exchange.openReader at opened
  split at opened
  · cases opened
  case h_2 reader' broker accepted =>
    cases opened
    intro read member
    have nothing := idle read member
    obtain ⟨_, known, others, _⟩ := Broker.openReader?_of_opened accepted
    have ready : ∀ other, (broker.queue other).ready = (exchange.broker.queue other).ready := by
      intro other
      rcases exchange.broker.openReader_cases name with
        refused | ⟨after, accepted', here, elsewhere, _⟩
      · rw [refused] at accepted
        cases accepted
      · rw [accepted'] at accepted
        cases accepted
        by_cases same : other = name
        · rw [same, here]
        · rw [elsewhere other same]
    by_cases same : read.reader = reader
    · obtain ⟨_, _, _, empty⟩ := nothing
      exact ⟨_, same ▸ known, rfl, (ready _).trans empty⟩
    · exact nothing.of_same (others _ same) (ready _)

theorem closeReader (idle : exchange.IsIdle) (reader : ReaderRef) :
    (exchange.closeReader reader).IsIdle := by
  cases found : exchange.broker.openReader? reader with
  | none => simpa [Exchange.closeReader, found] using idle
  | some state =>
    simp only [Exchange.closeReader, found, Option.isSome_some, if_true, Broker.closeReader]
    exact idle.wakeQueue fun _ elsewhere nothing => nothing.setQueue_of_ne _ elsewhere

theorem acknowledge (idle : exchange.IsIdle) (delivery : Delivery) :
    (exchange.acknowledge delivery).IsIdle := by
  intro read member
  have nothing : exchange.broker.HasNothing read.reader := idle read member
  have ready := exchange.broker.ready_acknowledge delivery read.reader.queue
  show (exchange.broker.acknowledge delivery).HasNothing read.reader
  by_cases same : read.reader = delivery.reader
  · cases held : exchange.broker.held? delivery with
    | none => rwa [Broker.acknowledge_of_held?_eq_none held]
    | some message =>
      obtain ⟨state, found, whole, empty⟩ := nothing
      have known := Broker.openReader?_acknowledge_self (same ▸ found) held
      rw [← same] at known
      exact ⟨_, known, whole, ready.trans empty⟩
  · exact nothing.of_same (Broker.openReader?_acknowledge_of_ne _ same) ready

/-- A read that is tried waits only if it has nothing; if it takes a message, then nobody was
waiting for one of that queue. -/
theorem attempt (idle : exchange.IsIdle) (read : PendingRead α) :
    (exchange.attempt read).2.IsIdle := by
  by_cases waits : (exchange.broker.read read.reader).1 = .waits
  · have nothing := Broker.HasNothing.of_waits waits
    rw [exchange.attempt_of_hasNothing nothing]
    intro other member
    rcases List.mem_append.1 member with before | added
    · exact idle other before
    · rw [List.mem_singleton.1 added]
      exact nothing
  · rw [exchange.attempt_of_ne_waits waits]
    intro other member
    have nothing : exchange.broker.HasNothing other.reader := idle other member
    show (exchange.broker.read read.reader).2.HasNothing other.reader
    rcases exchange.broker.read_cases read.reader with
      ⟨_, same⟩ | ⟨state, message, ready, _, _, head, delivered⟩
    · rwa [same]
    · rw [delivered]
      refine nothing.setQueue_of_ne _ fun here => ?_
      obtain ⟨_, _, _, empty⟩ := nothing
      rw [here, head] at empty
      cases empty

end IsIdle

/-! ## The turns of all that are woken -/

/-- The turn of one read, after those that have ended already. -/
def turnAfter (sofar : List (PendingRead α × ReadOutcome) × Exchange α) (read : PendingRead α) :
    List (PendingRead α × ReadOutcome) × Exchange α :=
  match sofar.2.attempt read with
  | (.waits, later) => (sofar.1, later)
  | (outcome, later) => (sofar.1 ++ [(read, outcome)], later)

theorem settle_eq (exchange : Exchange α) :
    exchange.settle = exchange.woken.foldl turnAfter ([], { exchange with woken := [] }) := rfl

/-- Nobody is lost in a turn, and nobody woken. -/
theorem turnAfter_perm (sofar : List (PendingRead α × ReadOutcome) × Exchange α)
    (read : PendingRead α) :
    ((turnAfter sofar read).1.map (·.1) ++ (turnAfter sofar read).2.waiting).Perm
        (sofar.1.map (·.1) ++ sofar.2.waiting ++ [read]) ∧
      (turnAfter sofar read).2.woken = sofar.2.woken := by
  by_cases waits : (sofar.2.broker.read read.reader).1 = .waits
  · simp [turnAfter, sofar.2.attempt_of_hasNothing (.of_waits waits)]
  · have ends : turnAfter sofar read =
        (sofar.1 ++ [(read, (sofar.2.broker.read read.reader).1)],
          { sofar.2 with broker := (sofar.2.broker.read read.reader).2 }) := by
      simp only [turnAfter, sofar.2.attempt_of_ne_waits waits]
    rw [ends]
    have moved : ([read] ++ sofar.2.waiting).Perm (sofar.2.waiting ++ [read]) :=
      List.perm_append_comm
    exact ⟨by simpa using moved.append_left (sofar.1.map (·.1)), rfl⟩

theorem IsIdle.turnAfter {sofar : List (PendingRead α × ReadOutcome) × Exchange α}
    (idle : sofar.2.IsIdle) (read : PendingRead α) : (turnAfter sofar read).2.IsIdle := by
  have same : (Exchange.turnAfter sofar read).2 = (sofar.2.attempt read).2 := by
    unfold Exchange.turnAfter
    split <;> simp_all
  exact same ▸ idle.attempt read

/-- When all that were woken have had their turns, nobody is left that is woken, everybody has ended
or waits, and whoever waits has nothing. -/
theorem IsIdle.settle (idle : exchange.IsIdle) :
    exchange.settle.2.IsIdle ∧ exchange.settle.2.woken = [] ∧
      (exchange.settle.1.map (·.1) ++ exchange.settle.2.waiting).Perm
        (exchange.waiting ++ exchange.woken) := by
  have turns : ∀ (reads : List (PendingRead α)) sofar, sofar.2.IsIdle →
      (reads.foldl Exchange.turnAfter sofar).2.IsIdle ∧
      (reads.foldl Exchange.turnAfter sofar).2.woken = sofar.2.woken ∧
      ((reads.foldl Exchange.turnAfter sofar).1.map (·.1) ++
        (reads.foldl Exchange.turnAfter sofar).2.waiting).Perm
        (sofar.1.map (·.1) ++ sofar.2.waiting ++ reads) := by
    intro reads
    induction reads with
    | nil => exact fun sofar idle => ⟨idle, rfl, by simp⟩
    | cons read reads ih =>
      intro sofar idle
      obtain ⟨perm, woken⟩ := turnAfter_perm sofar read
      obtain ⟨laterIdle, laterWoken, laterPerm⟩ := ih _ (idle.turnAfter read)
      refine ⟨laterIdle, laterWoken.trans woken, laterPerm.trans ?_⟩
      simpa using perm.append_right reads
  rw [settle_eq]
  have start : Exchange.IsIdle { exchange with woken := [] } := idle
  simpa using turns exchange.woken ([], { exchange with woken := [] }) start

end Exchange

namespace Journal

variable {α : Type} [DecidableEq α]

theorem takeTurn_of_hasNothing {journal : Journal α} {read : PendingRead α}
    (nothing : journal.broker.HasNothing read.reader) :
    journal.takeTurn read = { journal with
      exchange := { journal.exchange with
        waiting := journal.exchange.waiting ++ [read]
        woken := journal.exchange.woken.erase read } } := by
  let exchange := { journal.exchange with woken := journal.exchange.woken.erase read }
  have tried := exchange.attempt_of_hasNothing nothing
  simp only [takeTurn]
  rw [tried]
  simp [ReadOutcome.delivery?, exchange]

theorem takeTurn_of_ne_waits {journal : Journal α} {read : PendingRead α}
    (ends : (journal.broker.read read.reader).1 ≠ .waits) :
    journal.takeTurn read = { journal with
      exchange := { journal.exchange with
        broker := (journal.broker.read read.reader).2
        woken := journal.exchange.woken.erase read }
      delivered := journal.delivered ++
        (journal.broker.read read.reader).1.delivery?.toList } := by
  let exchange := { journal.exchange with woken := journal.exchange.woken.erase read }
  have tried := exchange.attempt_of_ne_waits ends
  simp only [takeTurn]
  rw [tried]
  rfl

/-- **What is done keeps the reads that wait without anything to wait past.** -/
theorem isIdle_act {journal : Journal α} (idle : journal.exchange.IsIdle) (action : Action α) :
    (journal.act action).exchange.IsIdle := by
  cases action with
  | publish queue body => exact idle.publish queue body
  | openReader queue =>
    simp only [act]
    split
    case h_1 opened => exact idle.openReader opened
    case h_2 => exact idle
  | beginRead read => exact idle
  | takeTurn read =>
    simp only [act]
    split
    · have taken : Exchange.IsIdle
          { journal.exchange with woken := journal.exchange.woken.erase read } := idle
      exact taken.attempt read
    · exact idle
  | withdraw owner => exact fun read member => idle read (List.mem_of_mem_filter member)
  | acknowledge delivery =>
    simp only [act]
    split
    · exact idle.acknowledge delivery
    · exact idle
  | closeReader reader => exact idle.closeReader reader
  | interrupt queue => exact idle.interrupt queue
  | setUnavailable isUnavailable => exact idle
  | close => exact idle.close

/-- In every history the reads that wait have nothing. -/
theorem isIdle_run (actions : List (Action α)) : (run actions).exchange.IsIdle := by
  have start : (fresh : Journal α).exchange.IsIdle := fun _ member => absurd member List.not_mem_nil
  have step : ∀ (journal : Journal α) action, journal.exchange.IsIdle →
      (journal.act action).exchange.IsIdle := fun _ action idle => isIdle_act idle action
  exact @run_induction α _ (fun journal => journal.exchange.IsIdle) start step actions

/-- When those that are woken have had their turns, after any history, nobody is woken any more,
nobody is lost, and whoever waits has nothing. -/
theorem isIdle_settle (actions : List (Action α)) :
    let exchange := (run actions).exchange
    exchange.settle.2.IsIdle ∧ exchange.settle.2.woken = [] ∧
      (exchange.settle.1.map (·.1) ++ exchange.settle.2.waiting).Perm
        (exchange.waiting ++ exchange.woken) :=
  (isIdle_run actions).settle

end Journal

end Turnstile
