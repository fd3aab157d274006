import Mathlib.Logic.Function.Basic
import Turnstile.Proofs.Broker.Waiting

/-!
# No wake-up is lost

In an exchange a read that finds nothing waits at once. Here the same is taken in single steps, as
they happen when nothing keeps the others from acting in between. A read that has a turn looks at
its queue and, in the same step, takes a **ticket**: the number of times that those who listen at
the queue have been notified so far. Only in a later turn does it look at the ticket, and park if
nobody was notified since; otherwise it looks at the queue again. A notification is a call that
raises the number, and nothing is remembered of it but that: it reaches every ticket that was taken
before it, whether its read is parked or not, and none that is taken later.

A `Vigil` is a broker with the reads at it, each in one of these stages. Every vigil shows an
exchange (`Vigil.exists_shows`): the reads whose tickets are still good are those that wait, the
others are those that are woken. So a read whose ticket is good has nothing to wait past, and once
all others have had their turns, that is true of every read that is left
(`Vigil.no_wakeup_is_lost`).
-/

set_option autoImplicit false

namespace Turnstile

/-- How far a read has come. -/
inductive ReadStage where
  /-- It looks at its queue in its next turn. -/
  | looking
  /-- It has found nothing and holds a ticket; whether it has looked at the ticket. -/
  | listening (ticket : Nat) (isParked : Bool)
deriving DecidableEq, Repr

/-- A broker with the reads at it, and the deliveries that were made and acknowledged. -/
structure Vigil (α : Type) where
  broker : Broker
  /-- How often those who listen at a queue were notified. -/
  calls : String → Nat
  reads : PendingRead α → Option ReadStage
  delivered : List Delivery
  acknowledged : List Delivery

namespace Vigil

variable {α : Type}

/-- The vigil at its start. -/
def fresh : Vigil α := ⟨.fresh, fun _ => 0, fun _ => none, [], []⟩

/-- Notify those who listen at some queues. -/
def notify (vigil : Vigil α) (isHere : String → Bool) : Vigil α :=
  { vigil with calls := fun name => vigil.calls name + if isHere name then 1 else 0 }

/-- The read listens, and nobody was notified since it took its ticket. -/
def Listens (vigil : Vigil α) (read : PendingRead α) : Prop :=
  ∃ isParked, vigil.reads read = some (.listening (vigil.calls read.reader.queue) isParked)

/-- The read is in progress and goes on when it has a turn. -/
def IsUp (vigil : Vigil α) (read : PendingRead α) : Prop :=
  vigil.reads read ≠ none ∧ ¬ vigil.Listens read

/-- All reads in progress are parked, and nobody was notified since. -/
def IsQuiet (vigil : Vigil α) : Prop :=
  ∀ read stage, vigil.reads read = some stage →
    stage = .listening (vigil.calls read.reader.queue) true

/-- A vigil shows what has happened to an exchange: whoever listens waits there, and whoever is up
is woken. -/
structure Shows (vigil : Vigil α) (journal : Journal α) : Prop where
  broker : vigil.broker = journal.broker
  delivered : vigil.delivered = journal.delivered
  acknowledged : vigil.acknowledged = journal.acknowledged
  waiting : ∀ read, read ∈ journal.exchange.waiting ↔ vigil.Listens read
  woken : ∀ read, read ∈ journal.exchange.woken ↔ vigil.IsUp read
  once : (journal.exchange.waiting ++ journal.exchange.woken).Nodup
  taken : ∀ read ticket isParked, vigil.reads read = some (.listening ticket isParked) →
    ticket ≤ vigil.calls read.reader.queue

section Actions

variable [DecidableEq α]

/-- The vigil with the stage of a read replaced; none if the read has ended. -/
def setStage (vigil : Vigil α) (read : PendingRead α) (stage : Option ReadStage) : Vigil α :=
  { vigil with reads := Function.update vigil.reads read stage }

/-- A turn of a read. -/
def turn (vigil : Vigil α) (read : PendingRead α) : Vigil α :=
  match vigil.reads read with
  | none => vigil
  | some .looking =>
    match vigil.broker.read read.reader with
    | (.waits, broker) =>
      { vigil with broker }.setStage read (some (.listening (vigil.calls read.reader.queue) false))
    | (outcome, broker) =>
      { vigil with broker, delivered := vigil.delivered ++ outcome.delivery?.toList }.setStage
        read none
  | some (.listening ticket _) =>
    if ticket = vigil.calls read.reader.queue then
      vigil.setStage read (some (.listening ticket true))
    else vigil.setStage read (some .looking)

/-- The vigil after an action. Nobody begins a read that is in progress. -/
def act (vigil : Vigil α) : Action α → Vigil α
  | .publish queue body =>
    { vigil with broker := vigil.broker.publish queue body }.notify (· == queue)
  | .openReader queue =>
    match vigil.broker.openReader queue with
    | .ok (_, broker) => { vigil with broker }
    | .error _ => vigil
  | .beginRead read =>
    if vigil.reads read = none then vigil.setStage read (some .looking) else vigil
  | .takeTurn read => vigil.turn read
  | .withdraw owner =>
    { vigil with reads := fun read => if read.owner = owner then none else vigil.reads read }
  | .acknowledge delivery =>
    if delivery ∈ vigil.delivered.diff vigil.acknowledged then
      { vigil with
        broker := vigil.broker.acknowledge delivery
        acknowledged := vigil.acknowledged ++ [delivery] }
    else vigil
  | .closeReader reader =>
    if (vigil.broker.openReader? reader).isSome then
      { vigil with broker := vigil.broker.closeReader reader }.notify (· == reader.queue)
    else vigil
  | .interrupt queue => { vigil with broker := vigil.broker.interrupt queue }.notify (· == queue)
  | .setUnavailable isUnavailable =>
    { vigil with broker := vigil.broker.setUnavailable isUnavailable }
  | .close => { vigil with broker := vigil.broker.close }.notify fun _ => true

/-- The vigil of a history. -/
def run (actions : List (Action α)) : Vigil α := actions.foldl act fresh

end Actions

/-! ## Notifications and wakes -/

theorem listens_notify_iff {vigil : Vigil α} {read : PendingRead α}
    (taken : ∀ ticket isParked, vigil.reads read = some (.listening ticket isParked) →
      ticket ≤ vigil.calls read.reader.queue) (isHere : String → Bool) :
    (vigil.notify isHere).Listens read ↔
      vigil.Listens read ∧ isHere read.reader.queue = false := by
  cases here : isHere read.reader.queue with
  | false => simp [Listens, notify, here]
  | true =>
    simp only [Listens, notify, here, if_true, Bool.true_eq_false, and_false, iff_false]
    rintro ⟨isParked, stage⟩
    exact Nat.not_succ_le_self _ (taken _ _ stage)

theorem Listens.ne_none {vigil : Vigil α} {read : PendingRead α} (listens : vigil.Listens read) :
    vigil.reads read ≠ none := by
  obtain ⟨isParked, stage⟩ := listens
  simp [stage]

namespace Shows

variable {vigil : Vigil α} {journal : Journal α} {broker : Broker}

theorem fresh : (fresh : Vigil α).Shows .fresh where
  broker := rfl
  delivered := rfl
  acknowledged := rfl
  waiting := by simp [Journal.fresh, Exchange.fresh, Vigil.fresh, Listens]
  woken := by simp [Journal.fresh, Exchange.fresh, Vigil.fresh, IsUp]
  once := .nil
  taken := fun _ _ _ stage => by cases stage

/-- What concerns the broker alone leaves the reads as they are. -/
theorem of_broker (shows : vigil.Shows journal) {later : Journal α} {acknowledged : List Delivery}
    (sameBroker : broker = later.broker) (sameDeliveries : later.delivered = journal.delivered)
    (sameAcknowledged : acknowledged = later.acknowledged)
    (sameWaiting : later.exchange.waiting = journal.exchange.waiting)
    (sameWoken : later.exchange.woken = journal.exchange.woken) :
    ({ vigil with broker, acknowledged } : Vigil α).Shows later where
  broker := sameBroker
  delivered := shows.delivered.trans sameDeliveries.symm
  acknowledged := sameAcknowledged
  waiting := fun read => sameWaiting ▸ shows.waiting read
  woken := fun read => sameWoken ▸ shows.woken read
  once := sameWaiting ▸ sameWoken ▸ shows.once
  taken := shows.taken

/-- To notify is to wake. -/
theorem notify (shows : vigil.Shows journal) {published : List Posting} (isHere : String → Bool) :
    ({ vigil with broker }.notify isHere).Shows
      { journal with
        exchange := { journal.exchange with broker }.wake fun read => isHere read.reader.queue
        published } where
  broker := rfl
  delivered := shows.delivered
  acknowledged := shows.acknowledged
  waiting := by
    intro read
    have after := @listens_notify_iff _ { vigil with broker } read (shows.taken read) isHere
    rw [after]
    simpa [Exchange.wake, Listens] using and_congr_left fun _ => shows.waiting read
  woken := by
    intro read
    have after := @listens_notify_iff _ { vigil with broker } read (shows.taken read) isHere
    rw [IsUp, after]
    have before := shows.woken read
    have waits := shows.waiting read
    have present : vigil.Listens read → vigil.reads read ≠ none := Listens.ne_none
    simp only [Exchange.wake, List.mem_append, List.mem_filter, before, waits, IsUp]
    cases isHere read.reader.queue with
    | false => simp [Vigil.notify, Listens]
    | true =>
      simp only [and_true, Bool.true_eq_false, and_false, not_false_eq_true]
      constructor
      · rintro (⟨inProgress, _⟩ | listens)
        · exact inProgress
        · exact present listens
      · intro inProgress
        by_cases listens : vigil.Listens read
        · exact .inr listens
        · exact .inl ⟨inProgress, listens⟩
  once := (journal.exchange.wake_perm fun read => isHere read.reader.queue).nodup_iff.2 shows.once
  taken := by
    intro read ticket isParked stage
    exact Nat.le_add_right_of_le (shows.taken read ticket isParked stage)

end Shows

/-! ## Stages -/

section Stages

variable [DecidableEq α] {vigil : Vigil α} {read other : PendingRead α} {stage : Option ReadStage}

theorem listens_setStage_self :
    (vigil.setStage read stage).Listens read ↔
      ∃ isParked, stage = some (.listening (vigil.calls read.reader.queue) isParked) := by
  simp [Listens, setStage]

theorem listens_setStage_of_ne (different : other ≠ read) :
    (vigil.setStage read stage).Listens other ↔ vigil.Listens other := by
  simp [Listens, setStage, Function.update_of_ne different]

theorem isUp_setStage_of_ne (different : other ≠ read) :
    (vigil.setStage read stage).IsUp other ↔ vigil.IsUp other := by
  rw [IsUp, listens_setStage_of_ne different]
  simp [IsUp, setStage, Function.update_of_ne different]

omit [DecidableEq α] in
/-- Who looks at his queue is up. -/
theorem isUp_of_looking (looks : vigil.reads read = some .looking) : vigil.IsUp read := by
  refine ⟨by simp [looks], ?_⟩
  rintro ⟨isParked, listens⟩
  rw [looks] at listens
  cases listens

omit [DecidableEq α] in
/-- Whose ticket is no longer good is up. -/
theorem isUp_of_outdated {ticket : Nat} {isParked : Bool}
    (listens : vigil.reads read = some (.listening ticket isParked))
    (outdated : ticket ≠ vigil.calls read.reader.queue) : vigil.IsUp read := by
  refine ⟨by simp [listens], ?_⟩
  rintro ⟨_, current⟩
  rw [listens] at current
  cases current
  exact outdated rfl

end Stages

/-! ## A vigil shows an exchange -/

section Steps

variable [DecidableEq α] {vigil : Vigil α} {journal : Journal α}

/-- The stage of one read decides where that read is in the exchange, and about no other. -/
theorem Shows.setStage (shows : vigil.Shows journal) {broker : Broker} {exchange : Exchange α}
    {delivered deliveries : List Delivery} {read : PendingRead α} {stage : Option ReadStage}
    (sameBroker : broker = exchange.broker) (sameDeliveries : deliveries = delivered)
    (others : ∀ other, other ≠ read →
      (other ∈ exchange.waiting ↔ other ∈ journal.exchange.waiting) ∧
      (other ∈ exchange.woken ↔ other ∈ journal.exchange.woken))
    (waiting : read ∈ exchange.waiting ↔
      ∃ isParked, stage = some (.listening (vigil.calls read.reader.queue) isParked))
    (woken : read ∈ exchange.woken ↔ stage ≠ none ∧ read ∉ exchange.waiting)
    (once : (exchange.waiting ++ exchange.woken).Nodup)
    (taken : ∀ ticket isParked, stage = some (.listening ticket isParked) →
      ticket ≤ vigil.calls read.reader.queue) :
    ({ vigil with broker, delivered := deliveries }.setStage read stage).Shows
      { journal with exchange, delivered } := by
  let changed : Vigil α := { vigil with broker, delivered := deliveries }
  have here : read ∈ exchange.waiting ↔ (changed.setStage read stage).Listens read :=
    waiting.trans listens_setStage_self.symm
  refine ⟨sameBroker, sameDeliveries, shows.acknowledged, fun other => ?_, fun other => ?_, once,
    fun other ticket isParked staged => ?_⟩
  · by_cases same : other = read
    · rw [same]
      exact here
    · have elsewhere := (others other same).1.trans (shows.waiting other)
      exact elsewhere.trans (@listens_setStage_of_ne _ _ changed _ _ stage same).symm
  · by_cases same : other = read
    · rw [same, IsUp, ← here]
      simpa [Vigil.setStage] using woken
    · have elsewhere := (others other same).2.trans (shows.woken other)
      exact elsewhere.trans (@isUp_setStage_of_ne _ _ changed _ _ stage same).symm
  · show ticket ≤ vigil.calls other.reader.queue
    by_cases same : other = read
    · subst same
      exact taken ticket isParked (by simpa [Vigil.setStage] using staged)
    · refine shows.taken other ticket isParked ?_
      simpa [Vigil.setStage, Function.update_of_ne same] using staged

/-- A read that begins is woken. -/
theorem Shows.beginRead (shows : vigil.Shows journal) {read : PendingRead α}
    (absent : vigil.reads read = none) :
    (vigil.setStage read (some .looking)).Shows (journal.act (.beginRead read)) := by
  have asleep : read ∉ journal.exchange.waiting := fun waits =>
    ((shows.waiting read).1 waits).ne_none absent
  have resting : read ∉ journal.exchange.woken := fun woken =>
    ((shows.woken read).1 woken).1 absent
  refine shows.setStage shows.broker shows.delivered (fun other different => ?_) ?_ ?_ ?_ ?_
  · simp [Exchange.begin, different]
  · simp [Exchange.begin, asleep]
  · simp [Exchange.begin, asleep]
  · have new : read ∉ journal.exchange.waiting ++ journal.exchange.woken := by
      simp [asleep, resting]
    show (journal.exchange.waiting ++ (journal.exchange.woken ++ [read])).Nodup
    rw [← List.append_assoc, ← List.concat_eq_append]
    exact shows.once.concat new
  · simp

/-- The turn of a read that looks at its queue: it waits, or ends. -/
theorem Shows.looked (shows : vigil.Shows journal) {read : PendingRead α}
    (looks : vigil.reads read = some .looking) :
    (vigil.turn read).Shows (journal.act (.takeTurn read)) := by
  have woken : read ∈ journal.exchange.woken := (shows.woken read).2 (isUp_of_looking looks)
  obtain ⟨_, nodup, apart⟩ := List.nodup_append.1 shows.once
  have asleep : read ∉ journal.exchange.waiting := fun waits => apart read waits read woken rfl
  have erased : read ∉ journal.exchange.woken.erase read := nodup.not_mem_erase
  have others : ∀ other, other ≠ read →
      (other ∈ journal.exchange.woken.erase read ↔ other ∈ journal.exchange.woken) :=
    fun _ different => List.mem_erase_of_ne different
  have took : journal.act (.takeTurn read) = journal.takeTurn read := by
    simp only [Journal.act, if_pos woken]
  rw [took]
  by_cases waits : (journal.broker.read read.reader).1 = .waits
  · have nothing := Broker.HasNothing.of_waits waits
    have turned : vigil.turn read =
        vigil.setStage read (some (.listening (vigil.calls read.reader.queue) false)) := by
      rw [← shows.broker] at nothing
      simp [turn, looks, nothing.read_eq]
    rw [turned, Journal.takeTurn_of_hasNothing nothing]
    refine shows.setStage shows.broker shows.delivered (fun other different => ?_) ?_ ?_ ?_ ?_
    · simp [different, others other different]
    · simp
    · simp [erased]
    · have moved : (journal.exchange.waiting ++ [read] ++ journal.exchange.woken.erase read).Perm
          (journal.exchange.waiting ++ journal.exchange.woken) := by
        rw [List.append_assoc]
        exact (List.perm_cons_erase woken).symm.append_left _
      exact moved.nodup_iff.2 shows.once
    · simp
  · have turned : vigil.turn read =
        { vigil with
          broker := (journal.broker.read read.reader).2
          delivered := vigil.delivered ++
            (journal.broker.read read.reader).1.delivery?.toList }.setStage read none := by
      simp only [turn, looks]
      rw [← shows.broker] at waits ⊢
      split
      case h_1 stays => simp [stays] at waits
      case h_2 => simp [*]
    rw [turned, Journal.takeTurn_of_ne_waits waits]
    refine shows.setStage rfl (by rw [shows.delivered]) (fun other different => ?_) ?_ ?_ ?_ ?_
    · simp [others other different]
    · simp [asleep]
    · simp [erased]
    · exact shows.once.sublist ((List.Sublist.refl _).append List.erase_sublist)
    · simp

/-- The turn of a read that looks at its ticket: it parks, or is to look at its queue again. -/
theorem Shows.listened (shows : vigil.Shows journal) {read : PendingRead α} {ticket : Nat}
    {isParked : Bool} (listens : vigil.reads read = some (.listening ticket isParked)) :
    (vigil.turn read).Shows journal := by
  by_cases current : ticket = vigil.calls read.reader.queue
  · subst current
    have waits : read ∈ journal.exchange.waiting := (shows.waiting read).2 ⟨isParked, listens⟩
    have apart := (List.nodup_append.1 shows.once).2.2
    have resting : read ∉ journal.exchange.woken := fun woken => apart read waits read woken rfl
    have turned : vigil.turn read =
        vigil.setStage read (some (.listening (vigil.calls read.reader.queue) true)) := by
      simp [turn, listens]
    rw [turned]
    refine shows.setStage shows.broker shows.delivered (fun _ _ => ⟨.rfl, .rfl⟩) ?_ ?_ shows.once ?_
    · simp [waits]
    · simp [waits, resting]
    · simp
  · have woken : read ∈ journal.exchange.woken :=
      (shows.woken read).2 (isUp_of_outdated listens current)
    have apart := (List.nodup_append.1 shows.once).2.2
    have asleep : read ∉ journal.exchange.waiting := fun waits => apart read waits read woken rfl
    have turned : vigil.turn read = vigil.setStage read (some .looking) := by
      simp [turn, listens, current]
    rw [turned]
    refine shows.setStage shows.broker shows.delivered (fun _ _ => ⟨.rfl, .rfl⟩) ?_ ?_ shows.once ?_
    · simp [asleep]
    · simp [asleep, woken]
    · simp

/-- The reads of an owner are given up in both. -/
theorem Shows.withdraw (shows : vigil.Shows journal) (owner : α) :
    (vigil.act (.withdraw owner)).Shows (journal.act (.withdraw owner)) where
  broker := shows.broker
  delivered := shows.delivered
  acknowledged := shows.acknowledged
  waiting := by
    intro read
    have before := shows.waiting read
    by_cases own : read.owner = owner
    · simp [Journal.act, Exchange.withdraw, Vigil.act, Listens, own]
    · simpa [Journal.act, Exchange.withdraw, Vigil.act, Listens, own] using before
  woken := by
    intro read
    have before := shows.woken read
    by_cases own : read.owner = owner
    · simp [Journal.act, Exchange.withdraw, Vigil.act, IsUp, own]
    · simpa [Journal.act, Exchange.withdraw, Vigil.act, IsUp, Listens, own] using before
  once := shows.once.sublist (List.filter_sublist.append List.filter_sublist)
  taken := by
    intro read ticket isParked staged
    simp only [act] at staged
    split at staged
    · cases staged
    · exact shows.taken read ticket isParked staged

/-- **What happens to a vigil happens to the exchange, or cannot be seen there.** -/
theorem Shows.act (shows : vigil.Shows journal) (action : Action α) :
    (vigil.act action).Shows journal ∨ (vigil.act action).Shows (journal.act action) := by
  cases action with
  | publish queue body =>
    right
    show (Vigil.notify _ _).Shows _
    rw [shows.broker]
    exact shows.notify (· == queue)
  | openReader queue =>
    right
    have same : journal.exchange.broker = vigil.broker := shows.broker.symm
    simp only [Vigil.act, Journal.act, Exchange.openReader, same]
    cases vigil.broker.openReader queue with
    | error fault => exact shows
    | ok opened => exact shows.of_broker rfl rfl shows.acknowledged rfl rfl
  | beginRead read =>
    by_cases absent : vigil.reads read = none
    · right
      simpa only [Vigil.act, if_pos absent] using shows.beginRead absent
    · left
      simpa only [Vigil.act, if_neg absent] using shows
  | takeTurn read =>
    show (vigil.turn read).Shows _ ∨ (vigil.turn read).Shows _
    cases staged : vigil.reads read with
    | none =>
      left
      simpa only [turn, staged] using shows
    | some stage =>
      cases stage with
      | looking => exact .inr (shows.looked staged)
      | listening ticket isParked => exact .inl (shows.listened staged)
  | withdraw owner => exact .inr (shows.withdraw owner)
  | acknowledge delivery =>
    right
    have inHand : journal.inHand = vigil.delivered.diff vigil.acknowledged := by
      rw [shows.delivered, shows.acknowledged]
      rfl
    simp only [Vigil.act, Journal.act, inHand]
    split
    · refine shows.of_broker ?_ rfl ?_ rfl rfl
      · rw [shows.broker]
        rfl
      · rw [shows.acknowledged]
        rfl
    · exact shows
  | closeReader reader =>
    right
    have same : journal.exchange.broker = vigil.broker := shows.broker.symm
    simp only [Vigil.act, Journal.act, Exchange.closeReader, same]
    split
    · exact shows.notify (· == reader.queue)
    · exact shows
  | interrupt queue =>
    right
    show (Vigil.notify _ _).Shows _
    rw [shows.broker]
    exact shows.notify (· == queue)
  | setUnavailable isUnavailable =>
    right
    refine shows.of_broker ?_ rfl shows.acknowledged rfl rfl
    rw [shows.broker]
    rfl
  | close =>
    right
    show (Vigil.notify _ _).Shows _
    rw [shows.broker]
    exact shows.notify fun _ => true

/-- Every vigil shows an exchange with a history of its own. -/
theorem exists_shows (actions : List (Action α)) :
    ∃ history : List (Action α), (run actions).Shows (Journal.run history) := by
  induction actions using List.reverseRecOn with
  | nil => exact ⟨[], .fresh⟩
  | append_singleton earlier action ih =>
    obtain ⟨history, shows⟩ := ih
    rw [run, List.foldl_append]
    rcases shows.act action with unseen | seen
    · exact ⟨history, unseen⟩
    · refine ⟨history ++ [action], ?_⟩
      rw [Journal.run, List.foldl_append]
      exact seen

end Steps

/-! ## Turns until all is quiet -/

/-- How many turns a read needs at most until it has ended or is parked, if those who listen at its
queue were notified so many times. -/
def turnsFrom (calls : Nat) : Option ReadStage → Nat
  | none => 0
  | some .looking => 2
  | some (.listening ticket isParked) =>
    if ticket = calls then if isParked then 0 else 1 else 3

/-- How many turns a read needs at most. -/
def turnsLeft (vigil : Vigil α) (read : PendingRead α) : Nat :=
  turnsFrom (vigil.calls read.reader.queue) (vigil.reads read)

/-- All reads in progress have as many turns as they can need. -/
def IsEnough (vigil : Vigil α) [DecidableEq α] (turns : List (PendingRead α)) : Prop :=
  ∀ read, vigil.reads read ≠ none → 3 ≤ turns.count read

theorem turnsFrom_le (calls : Nat) (stage : Option ReadStage) : turnsFrom calls stage ≤ 3 := by
  unfold turnsFrom
  repeat' split
  all_goals omega

/-- Who needs no turn has ended, or is parked with a ticket that is good. -/
theorem eq_of_turnsFrom {calls : Nat} {stage : ReadStage}
    (rests : turnsFrom calls (some stage) = 0) : stage = .listening calls true := by
  cases stage with
  | looking => cases rests
  | listening ticket isParked =>
    by_cases current : ticket = calls
    · cases isParked with
      | false => simp [turnsFrom, current] at rests
      | true => rw [current]
    · simp [turnsFrom, current] at rests

section Turns

variable [DecidableEq α] {vigil : Vigil α}

theorem calls_turn (vigil : Vigil α) (read : PendingRead α) :
    (vigil.turn read).calls = vigil.calls := by
  unfold turn
  repeat' split
  all_goals rfl

theorem reads_turn_of_ne (vigil : Vigil α) {read other : PendingRead α}
    (different : other ≠ read) : (vigil.turn read).reads other = vigil.reads other := by
  unfold turn
  repeat' split
  all_goals first | rfl | exact Function.update_of_ne different _ _

/-- A turn of a read brings that read nearer to its rest. -/
theorem turnsLeft_turn_self (vigil : Vigil α) (read : PendingRead α) :
    (vigil.turn read).turnsLeft read ≤ vigil.turnsLeft read - 1 := by
  rw [turnsLeft, calls_turn, turnsLeft]
  cases staged : vigil.reads read with
  | none => simp [turn, staged, turnsFrom]
  | some stage =>
    cases stage with
    | looking =>
      simp only [turn, staged]
      split
      · simp [setStage, turnsFrom]
      · simp [setStage, turnsFrom]
    | listening ticket isParked =>
      by_cases current : ticket = vigil.calls read.reader.queue
      · simp [turn, staged, current, setStage, turnsFrom]
      · simp [turn, staged, current, setStage, turnsFrom]

/-- The turns of a read are counted; those of the others change nothing for it. -/
theorem turnsLeft_turns (vigil : Vigil α) (turns : List (PendingRead α)) (read : PendingRead α) :
    (turns.foldl turn vigil).turnsLeft read ≤ vigil.turnsLeft read - turns.count read := by
  induction turns generalizing vigil with
  | nil => exact Nat.le_refl _
  | cons next turns ih =>
    refine Nat.le_trans (ih (vigil.turn next)) ?_
    by_cases same : next = read
    · subst same
      have nearer := vigil.turnsLeft_turn_self next
      rw [List.count_cons_self]
      omega
    · have kept : (vigil.turn next).turnsLeft read = vigil.turnsLeft read := by
        rw [turnsLeft, calls_turn, reads_turn_of_ne vigil (Ne.symm same), turnsLeft]
      exact Nat.le_of_eq (by rw [kept, List.count_cons_of_ne same])

/-- After enough turns all is quiet. -/
theorem IsEnough.isQuiet {turns : List (PendingRead α)} (enough : vigil.IsEnough turns) :
    (turns.foldl turn vigil).IsQuiet := by
  intro read stage staged
  have counted := vigil.turnsLeft_turns turns read
  have rests : (turns.foldl turn vigil).turnsLeft read = 0 := by
    by_cases absent : vigil.reads read = none
    · simpa [turnsLeft, absent, turnsFrom] using counted
    · have atMost : vigil.turnsLeft read ≤ 3 := turnsFrom_le _ _
      have count := enough read absent
      omega
  rw [turnsLeft, staged] at rests
  exact eq_of_turnsFrom rests

/-- There are always enough turns to be had. -/
theorem Shows.exists_isEnough {journal : Journal α} (shows : vigil.Shows journal) :
    ∃ turns, vigil.IsEnough turns := by
  let reads := journal.exchange.waiting ++ journal.exchange.woken
  refine ⟨reads ++ reads ++ reads, fun read present => ?_⟩
  have member : read ∈ reads := by
    rw [List.mem_append, shows.waiting, shows.woken]
    by_cases listens : vigil.Listens read
    · exact .inl listens
    · exact .inr ⟨present, listens⟩
  have once : 0 < reads.count read := List.count_pos_iff.2 member
  simp only [List.count_append]
  omega

/-- Whoever listens with a good ticket has nothing to wait past. -/
theorem hasNothing_of_listens (actions : List (Action α)) {read : PendingRead α}
    (listens : (run actions).Listens read) : (run actions).broker.HasNothing read.reader := by
  obtain ⟨history, shows⟩ := exists_shows actions
  rw [shows.broker]
  exact Journal.isIdle_run history read ((shows.waiting read).2 listens)

/-- In a quiet vigil every read that is left has nothing to wait past. -/
theorem IsQuiet.hasNothing {actions : List (Action α)} (quiet : (run actions).IsQuiet)
    {read : PendingRead α} (present : (run actions).reads read ≠ none) :
    (run actions).broker.HasNothing read.reader := by
  obtain ⟨stage, staged⟩ := Option.ne_none_iff_exists'.1 present
  exact hasNothing_of_listens actions ⟨true, quiet read stage staged ▸ staged⟩

/-- **No wake-up is lost.** At any time the reads are those of an exchange, and a read whose ticket
is good, parked or not, has an open and whole reader on an empty queue. All reads come to rest as
soon as each of them has had three turns, in whatever order, and then that is true of every read
that has not ended. -/
theorem no_wakeup_is_lost (actions : List (Action α)) :
    (∃ history : List (Action α), (run actions).Shows (Journal.run history)) ∧
    (∀ read, (run actions).Listens read → (run actions).broker.HasNothing read.reader) ∧
    (∃ turns, (run actions).IsEnough turns) ∧
    ∀ turns, (run actions).IsEnough turns →
      (run (actions ++ turns.map .takeTurn)).IsQuiet ∧
      ∀ read, (run (actions ++ turns.map .takeTurn)).reads read ≠ none →
        (run (actions ++ turns.map .takeTurn)).broker.HasNothing read.reader := by
  obtain ⟨history, shows⟩ := exists_shows actions
  refine ⟨⟨history, shows⟩, fun read => hasNothing_of_listens actions, shows.exists_isEnough,
    fun turns enough => ?_⟩
  have quiet : (run (actions ++ turns.map .takeTurn)).IsQuiet := by
    rw [run, List.foldl_append, List.foldl_map]
    exact enough.isQuiet
  exact ⟨quiet, fun read => quiet.hasNothing⟩

/-- A message that comes after the look at the queue and before the look at the ticket is found. -/
example :
    let read : PendingRead Nat := ⟨0, ⟨"jobs", 0⟩⟩
    let parked : List (Action Nat) :=
      [.openReader "jobs", .beginRead read, .takeTurn read, .publish "jobs" "a", .takeTurn read]
    (run parked).reads read = some .looking ∧
      (run (parked ++ [.takeTurn read])).delivered = [⟨⟨"jobs", 0⟩, ⟨0, "a"⟩⟩] := by decide

end Turns

end Vigil

end Turnstile
