import Mathlib.Data.List.Infix
import Turnstile.Proofs.Consumer.Turns
import Turnstile.Proofs.Work

/-!
# Work is started once

A **shift** is a crew with the API that answers its inspections and starts work. A loop that
inspects a message asks about the event, waits for an admission if the work is still to be started,
and has it started; each of this takes any time. Whatever else happens to a crew happens in between:
copies of a message are published, readers are broken, loops are cancelled or dropped, and others
come after them, who get the message again.

Of the API this is assumed. A piece of work leaves the phase `pending` at any time, at the latest
when a call that has started it returns, and never comes back; and an answer about an event does not
show as pending what had left this phase when the loop asked (`Shift.agrees`). All calls can fail.

On a queue with one reader at most the work of a message is then started once at most, if at no
other queue; and from then on its copies are discarded (`Shift.started_once`). The API is asked
long before the work is started, if there is no admission for a while. But as long as a loop has the
message in hand no other loop has one of that queue, so what the loop was told remains true until
the loop itself has the work started. A loop that inspects a message asked after the start, or has
seen its own message come back.
-/

set_option autoImplicit false

namespace Turnstile

namespace Consumer

/-- What is known of a shift afterwards. -/
inductive Mark where
  | inspected (number : Nat) (delivery : Delivery) (disposition : Disposition)
  /-- A call of the loop has returned that has started the work. -/
  | started (number : Nat) (work : Work)
deriving DecidableEq

/-- The work that was started. -/
def Mark.started? : Mark → Option Work
  | started _ work => some work
  | inspected _ _ _ => none

/-- A crew with the API, as far as it matters to the crew, and what has happened. -/
structure Shift where
  crew : Crew
  /-- The work that has left the phase `pending`. -/
  left : List Work
  /-- By the number of a loop, the work that had left this phase when the loop asked about the
  message that it inspects. -/
  asked : Nat → List Work
  /-- The inspections and the starts, earliest first. -/
  record : List Mark

namespace Shift

/-! ## What happens in a shift -/

/-- What happens in a shift. -/
inductive Action where
  /-- Something happens to the crew, other than an answer of the API. -/
  | crew (action : Crew.Action)
  /-- A loop is answered about the event of the message that it inspects. -/
  | answer (number : Nat) (result : Except ApiFault Event)
  /-- The call of a loop returns by which it has its work started. -/
  | start (number : Nat) (result : Except ApiFault Unit)
  /-- A piece of work leaves the phase `pending`. -/
  | leave (work : Work)

/-- The shift at its start. -/
def fresh : Shift := ⟨.fresh, [], fun _ => [], []⟩

/-- Whether an input tells what the API has answered. -/
def isAnswer : Crew.Action → Bool
  | .take _ (.inspected _) => true
  | .take _ .dispatched => true
  | _ => false

/-- Whether an answer about an event shows nothing as pending that has left this phase. -/
def agrees (left : List Work) (event : EventId) (result : Except ApiFault Event) : Bool :=
  left.all fun work => work.event ≠ event || !work.isWanted result

/-- The shift when something has happened to the crew. A loop that comes to inspect a message by
this asks now. -/
def goOn (queueOf : Nat → String) (shift : Shift) (action : Crew.Action) : Shift :=
  { shift with
    crew := shift.crew.act queueOf action
    asked := fun number =>
      if (shift.crew.loops number).stage.isInspecting then shift.asked number else shift.left }

/-- The shift when a piece of work has left the phase `pending`. -/
def release (shift : Shift) (work : Work) : Shift := { shift with left := work :: shift.left }

/-- The shift with something on record. -/
def note (shift : Shift) (mark : Mark) : Shift := { shift with record := shift.record ++ [mark] }

/-- The shift after an action; loops read the queues, and messages of the kinds, that are given. -/
def act (queueOf : Nat → String) (kindOf : Nat → WorkKind) (shift : Shift) : Action → Shift
  | .crew action => if isAnswer action then shift else shift.goOn queueOf action
  | .answer number result =>
    match (shift.crew.loops number).stage with
    | .inspecting _ delivery =>
      let work := Work.ofMessage? (kindOf number) delivery.message.body
      if work.all fun work => agrees (shift.asked number) work.event result then
        let disposition :=
          (Disposition.ofMessage (kindOf number) delivery.message.body fun _ => result).1
        (shift.goOn queueOf (.take number (.inspected disposition))).note
          (.inspected number delivery disposition)
      else shift
    | _ => shift
  | .start number result =>
    match (shift.crew.loops number).stage with
    | .dispatching _ _ work =>
      let later := shift.goOn queueOf (.take number .dispatched)
      match result with
      | .ok () => (later.release work).note (.started number work)
      | .error _ => later
    | _ => shift
  | .leave work => shift.release work

/-- The shift after a list of actions. -/
def run (queueOf : Nat → String) (kindOf : Nat → WorkKind) (actions : List Action) : Shift :=
  actions.foldl (act queueOf kindOf) fresh

theorem run_snoc (queueOf : Nat → String) (kindOf : Nat → WorkKind) (earlier : List Action)
    (action : Action) : run queueOf kindOf (earlier ++ [action]) =
      (run queueOf kindOf earlier).act queueOf kindOf action :=
  List.foldl_concat _ _ _ _

variable {queueOf : Nat → String} {kindOf : Nat → WorkKind} {queue : String} {work : Work}
  {shift : Shift} {number : Nat}

/-- To the crew there happens one thing at a time. -/
theorem crew_act_cases (queueOf : Nat → String) (kindOf : Nat → WorkKind) (shift : Shift)
    (action : Action) : (shift.act queueOf kindOf action).crew = shift.crew ∨
      ∃ step, (shift.act queueOf kindOf action).crew = shift.crew.act queueOf step := by
  cases action with
  | crew step =>
    simp only [act]
    split
    · exact .inl rfl
    · exact .inr ⟨step, rfl⟩
  | answer number result =>
    simp only [act]
    split
    · split
      · exact .inr ⟨.take number (.inspected _), rfl⟩
      · exact .inl rfl
    · exact .inl rfl
  | start number result =>
    simp only [act]
    split
    · split <;> exact .inr ⟨.take number .dispatched, rfl⟩
    · exact .inl rfl
  | leave work => exact .inl rfl

/-- What is on record stays there. -/
theorem record_prefix_act (queueOf : Nat → String) (kindOf : Nat → WorkKind) (shift : Shift)
    (action : Action) : shift.record <+: (shift.act queueOf kindOf action).record := by
  cases action with
  | crew step =>
    simp only [act]
    split <;> exact List.prefix_rfl
  | answer number result =>
    simp only [act]
    split
    · split
      · exact List.prefix_append _ _
      · exact List.prefix_rfl
    · exact List.prefix_rfl
  | start number result =>
    simp only [act]
    split
    · split
      · exact List.prefix_append _ _
      · exact List.prefix_rfl
    · exact List.prefix_rfl
  | leave work => exact List.prefix_rfl

/-- The crew of a shift is tended, and its loops keep to their queues. -/
theorem tended_run (queueOf : Nat → String) (kindOf : Nat → WorkKind) (actions : List Action) :
    (run queueOf kindOf actions).crew.Tended ∧
      (run queueOf kindOf actions).crew.Reads queueOf := by
  induction actions using List.reverseRecOn with
  | nil => exact ⟨.fresh, Crew.reads_fresh queueOf⟩
  | append_singleton earlier action ih =>
    rw [run_snoc]
    rcases crew_act_cases queueOf kindOf (run queueOf kindOf earlier) action with
      same | ⟨step, stepped⟩
    · rw [same]
      exact ih
    · rw [stepped]
      exact ⟨ih.1.act queueOf step, ih.2.act step⟩

/-! ## What the loops of a queue know -/

/-- Whether a piece of work was started. -/
def HasStarted (shift : Shift) (work : Work) : Prop := ∃ number, .started number work ∈ shift.record

/-- Once the work is started it is not started again, and the queue's copies of its message are
discarded. -/
def Bars (queueOf : Nat → String) (kindOf : Nat → WorkKind) (queue : String) (work : Work)
    (first : Mark) : Mark → Prop
  | .started _ other => first.started? = some work → other ≠ work
  | .inspected number delivery disposition => first.started? = some work →
    queueOf number = queue → Work.ofMessage? (kindOf number) delivery.message.body = some work →
    disposition = .discard

/-- What holds of a queue and a piece of work that is started there alone. The loops of the queue
know better than to start it again: one that inspects a message has asked after the start
(`asked`), and one that has the work in hand has it before (`unstarted`). -/
structure Knows (queueOf : Nat → String) (kindOf : Nat → WorkKind) (queue : String) (work : Work)
    (shift : Shift) : Prop where
  left : shift.HasStarted work → work ∈ shift.left
  asked : ∀ number, queueOf number = queue → (shift.crew.loops number).stage.isInspecting →
    shift.HasStarted work → work ∈ shift.asked number
  unstarted : ∀ number, queueOf number = queue →
    (shift.crew.loops number).stage.work? = some work → ¬ shift.HasStarted work
  bars : shift.record.Pairwise (Bars queueOf kindOf queue work)

theorem hasStarted_of_started? {mark : Mark} (member : mark ∈ shift.record)
    (started : mark.started? = some work) : shift.HasStarted work := by
  cases mark with
  | inspected => cases started
  | started number other =>
    cases started
    exact ⟨number, member⟩

namespace Knows

theorem fresh : Shift.fresh.Knows queueOf kindOf queue work where
  left := fun ⟨_, started⟩ => absurd started List.not_mem_nil
  asked := fun _ _ inspects => nomatch inspects
  unstarted := fun _ _ has => nomatch has
  bars := .nil

theorem release (knows : shift.Knows queueOf kindOf queue work) (other : Work) :
    (shift.release other).Knows queueOf kindOf queue work where
  left := fun started => List.mem_cons_of_mem _ (knows.left started)
  asked := knows.asked
  unstarted := knows.unstarted
  bars := knows.bars

/-- What happens to the crew, as long as no loop of the queue decides to start the work again. -/
theorem goOn (knows : shift.Knows queueOf kindOf queue work) {action : Crew.Action}
    (wanted : ∀ number, queueOf number = queue →
      action = .take number (.inspected (.dispatch work)) → ¬ shift.HasStarted work) :
    (shift.goOn queueOf action).Knows queueOf kindOf queue work where
  left := knows.left
  asked := by
    intro number here _ started
    by_cases inspects : (shift.crew.loops number).stage.isInspecting
    · simpa [Shift.goOn, inspects] using knows.asked number here inspects started
    · simpa [Shift.goOn, inspects] using knows.left started
  unstarted := by
    intro number here has
    have turn := Crew.turn_act queueOf shift.crew action number
    generalize before : (shift.crew.loops number).stage = earlier at turn
    change ((shift.crew.act queueOf action).loops number).stage.work? = some work at has
    generalize ((shift.crew.act queueOf action).loops number).stage = later at turn has
    cases turn with
    | stays => exact knows.unstarted number here (before ▸ has)
    | dropped => cases has
    | takes origin _ move =>
      rcases move.work?_cases has with had | rfl
      · exact knows.unstarted number here (before ▸ had)
      · rcases origin with taken | reply
        · exact wanted number here taken
        · cases reply
  bars := knows.bars

/-- An inspection goes on record. -/
theorem inspect (knows : shift.Knows queueOf kindOf queue work) {delivery : Delivery}
    {disposition : Disposition}
    (discarded : shift.HasStarted work → queueOf number = queue →
      Work.ofMessage? (kindOf number) delivery.message.body = some work → disposition = .discard) :
    (shift.note (.inspected number delivery disposition)).Knows queueOf kindOf queue work := by
  have same : (shift.note (.inspected number delivery disposition)).HasStarted work →
      shift.HasStarted work := by
    simp [HasStarted, note]
  refine ⟨fun started => knows.left (same started), fun other here inspects started =>
    knows.asked other here inspects (same started), fun other here has started =>
    knows.unstarted other here has (same started), List.pairwise_append.2 ⟨knows.bars,
    List.pairwise_singleton _ _, fun mark member last new => ?_⟩⟩
  cases List.mem_singleton.1 new
  intro started
  exact discarded (hasStarted_of_started? member started)

/-- A start goes on record: of other work, or of this work, which was not started before, when no
loop of the queue has a message in hand any more. -/
theorem start (knows : shift.Knows queueOf kindOf queue work) {other : Work}
    (first : other = work → ¬ shift.HasStarted work ∧ ∀ number, queueOf number = queue →
      (shift.crew.loops number).stage.unsettled? = none) :
    ((shift.release other).note (.started number other)).Knows queueOf kindOf queue work := by
  have bars : (shift.record ++ [Mark.started number other]).Pairwise
      (Bars queueOf kindOf queue work) := by
    refine List.pairwise_append.2 ⟨knows.bars, List.pairwise_singleton _ _,
      fun mark member last new => ?_⟩
    cases List.mem_singleton.1 new
    intro started same
    exact (first same).1 (hasStarted_of_started? member started)
  by_cases same : other = work
  · -- The loops of the queue have nothing in hand that they could have been told about.
    subst same
    obtain ⟨_, settled⟩ := first rfl
    refine ⟨fun _ => List.mem_cons_self, fun number here inspects _ => ?_,
      fun number here has => ?_, bars⟩
    · have busy : (shift.crew.loops number).stage.unsettled?.isSome :=
        Stage.unsettled?_isSome_of_isInspecting inspects
      rw [settled number here] at busy
      cases busy
    · have busy : (shift.crew.loops number).stage.unsettled?.isSome :=
        Stage.unsettled?_isSome_of_work? has
      rw [settled number here] at busy
      cases busy
  · have earlier : ((shift.release other).note (.started number other)).HasStarted work →
        shift.HasStarted work := by
      rintro ⟨starter, started⟩
      rcases List.mem_append.1 started with old | new
      · exact ⟨starter, old⟩
      · cases List.mem_singleton.1 new
        exact absurd rfl same
    exact ⟨fun started => List.mem_cons_of_mem _ (knows.left (earlier started)),
      fun number here inspects started => knows.asked number here inspects (earlier started),
      fun number here has started => knows.unstarted number here has (earlier started), bars⟩

/-- A loop that is answered is not told to start again what was started when it asked. -/
theorem answer (knows : shift.Knows queueOf kindOf queue work) {result : Except ApiFault Event} :
    (shift.act queueOf kindOf (.answer number result)).Knows queueOf kindOf queue work := by
  simp only [Shift.act]
  split
  case h_1 reader delivery inspects =>
    split
    case isTrue agreed =>
      generalize decided : (Disposition.ofMessage (kindOf number) delivery.message.body
        fun _ => result).1 = disposition
      have refused : shift.HasStarted work → queueOf number = queue →
          disposition ≠ .dispatch work := by
        -- The work had been started when the loop asked, and so was not shown as pending.
        rintro started here rfl
        obtain ⟨named, wanted⟩ := Disposition.ofMessage_eq_dispatch_iff.1 decided
        have known := knows.asked number here (by rw [inspects]; rfl) started
        rw [named, Option.all_some, agrees, List.all_eq_true] at agreed
        simpa [wanted] using agreed work known
      refine inspect (knows.goOn fun other here taken started => ?_) fun started here names => ?_
      · cases taken
        exact refused started here rfl
      · cases disposition with
        | discard => rfl
        | dispatch other =>
          have named := (Disposition.ofMessage_eq_dispatch_iff.1 decided).1
          obtain rfl : work = other := Option.some.inj (names.symm.trans named)
          exact absurd rfl (refused started here)
    case isFalse => exact knows
  case h_2 => exact knows

/-- When the call of a loop returns, no other loop of its queue has a message in hand, and the loop
itself is done with its own. -/
theorem startCall (knows : shift.Knows queueOf kindOf queue work) (tended : shift.crew.Tended)
    (reads : shift.crew.Reads queueOf)
    (single : (shift.crew.journal.broker.queue queue).readers.size ≤ 1)
    {result : Except ApiFault Unit}
    (here : ∀ number', .started number' work ∈
      (shift.act queueOf kindOf (.start number result)).record → queueOf number' = queue) :
    (shift.act queueOf kindOf (.start number result)).Knows queueOf kindOf queue work := by
  simp only [Shift.act] at here ⊢
  split
  case h_1 reader delivery other starts =>
    have later : (shift.goOn queueOf (.take number .dispatched)).Knows queueOf kindOf queue work :=
      knows.goOn fun _ _ => nofun
    split
    case h_1 =>
      -- The start of this very work has to be the first, and nobody else may have been told yet
      -- that the work is pending.
      refine later.start fun same => ?_
      subst same
      have mine : queueOf number = queue := by
        refine here number ?_
        simp only [starts]
        exact List.mem_append_right _ (List.mem_singleton_self _)
      have entered : shift.crew.act queueOf (.take number .dispatched) =
          shift.crew.enter number .dispatched (.acknowledging reader delivery) := by
        simp [Crew.act, Crew.feed, starts, Stage.next?, Input.agrees, Input.isReply]
      refine ⟨knows.unstarted number mine (by rw [starts]; rfl), fun another there => ?_⟩
      show ((shift.crew.act queueOf (.take number .dispatched)).loops another).stage.unsettled? = _
      rw [entered]
      by_cases same : another = number
      · subst same
        simp [Crew.enter, Loop.enter, Stage.unsettled?]
      · have idle : ¬ (shift.crew.loops another).stage.unsettled?.isSome := fun busy =>
          same (tended.eq_of_unsettled reads single there mine busy (by rw [starts]; rfl))
        simpa [Crew.enter, Function.update_of_ne same] using idle
    case h_2 => exact later
  case h_2 => exact knows

/-- **What happens in a shift leaves the loops of a queue in the know**, as long as one reader at
most is open on it and the work is started there alone. -/
theorem act (knows : shift.Knows queueOf kindOf queue work) (tended : shift.crew.Tended)
    (reads : shift.crew.Reads queueOf)
    (single : (shift.crew.journal.broker.queue queue).readers.size ≤ 1) (action : Action)
    (here : ∀ number, .started number work ∈ (shift.act queueOf kindOf action).record →
      queueOf number = queue) :
    (shift.act queueOf kindOf action).Knows queueOf kindOf queue work := by
  cases action with
  | crew step =>
    simp only [Shift.act]
    split
    case isTrue => exact knows
    case isFalse other =>
      refine knows.goOn fun number _ taken => ?_
      subst taken
      exact absurd rfl other
  | answer number result => exact knows.answer
  | start number result => exact knows.startCall tended reads single here
  | leave other => exact knows.release other

end Knows

theorem knows_run (queueOf : Nat → String) (kindOf : Nat → WorkKind) (queue : String) (work : Work)
    (actions : List Action)
    (single : ∀ earlier, earlier <+: actions →
      ((run queueOf kindOf earlier).crew.journal.broker.queue queue).readers.size ≤ 1)
    (here : ∀ number, .started number work ∈ (run queueOf kindOf actions).record →
      queueOf number = queue) :
    (run queueOf kindOf actions).Knows queueOf kindOf queue work := by
  induction actions using List.reverseRecOn with
  | nil => exact .fresh
  | append_singleton earlier action ih =>
    have before : earlier <+: earlier ++ [action] := List.prefix_append _ _
    rw [run_snoc] at here ⊢
    have kept := record_prefix_act queueOf kindOf (run queueOf kindOf earlier) action
    have knows := ih (fun first shorter => single first (shorter.trans before))
      fun number started => here number (kept.subset started)
    obtain ⟨tended, reads⟩ := tended_run queueOf kindOf earlier
    exact knows.act tended reads (single earlier before) action here

/-! ## Once -/

theorem count_started_le_one {record : List Mark}
    (bars : record.Pairwise (Bars queueOf kindOf queue work)) :
    (record.filterMap Mark.started?).count work ≤ 1 := by
  have once : (record.filterMap Mark.started?).Pairwise
      fun first second => first = work → second ≠ work := by
    refine List.Pairwise.filterMap _ (fun first second bar one started other again same => ?_) bars
    subst same
    cases second with
    | inspected => cases again
    | started number other =>
      cases again
      exact bar started
  by_contra twice
  have sublist : [work, work].Sublist (record.filterMap Mark.started?) :=
    List.replicate_sublist_iff.2 (show 2 ≤ _ by omega)
  have apart := once.sublist sublist
  simp at apart

/-- **Work is started once.** Let one reader at most be open at any time on a queue, and let a piece
of work be started by the loops of this queue alone. Then it is started once at most. Every copy of
its message that a loop of the queue inspects afterwards is discarded, and no loop of the queue
waits to start it. -/
theorem started_once (queueOf : Nat → String) (kindOf : Nat → WorkKind) (queue : String)
    (work : Work) (actions : List Action)
    (single : ∀ earlier, earlier <+: actions →
      ((run queueOf kindOf earlier).crew.journal.broker.queue queue).readers.size ≤ 1)
    (here : ∀ number, .started number work ∈ (run queueOf kindOf actions).record →
      queueOf number = queue) :
    let shift := run queueOf kindOf actions
    (shift.record.filterMap Mark.started?).count work ≤ 1 ∧
      ∀ before number after, shift.record = before ++ .started number work :: after →
        (∀ other delivery disposition, .inspected other delivery disposition ∈ after →
          queueOf other = queue →
          Work.ofMessage? (kindOf other) delivery.message.body = some work →
          disposition = .discard) ∧
        ∀ other, queueOf other = queue → (shift.crew.loops other).stage.work? ≠ some work := by
  intro shift
  have knows := knows_run queueOf kindOf queue work actions single here
  refine ⟨count_started_le_one knows.bars, fun before number after split => ⟨?_, ?_⟩⟩
  · intro other delivery disposition inspected there names
    have bars := knows.bars
    rw [show (run queueOf kindOf actions).record = _ from split, List.pairwise_append,
      List.pairwise_cons] at bars
    exact bars.2.1.1 _ inspected rfl there names
  · intro other there has
    exact knows.unstarted other there has ⟨number, by rw [show _ = _ from split]; simp⟩

/-- The name of an event. -/
def sampleId : EventId := ⟨"clean", by decide +kernel⟩

/-- The event, with its worker in a phase. -/
def sample (phase : Phase) : Event := ⟨sampleId, none, phase, .empty⟩

/-- A run of two loops on a queue with three copies of a message. The first loop is cancelled while
it waits for an admission, and the second gets the same copy again; the call to start the worker
fails. With the next copy it does not, and meanwhile the reader of the loop is broken. The last copy
comes by another reader; an answer that shows the worker as pending is not possible any more. -/
def restarted (queue : String) : List Action :=
  [.crew (.publish queue "clean"), .crew (.publish queue "clean"), .crew (.publish queue "clean"),
    .crew (.take 0 (.began false)), .crew (.openReader 0), .crew (.takeTurn 0),
    .answer 0 (.ok (sample .pending)), .crew (.cancel 0), .crew (.take 0 .cancelled),
    .crew (.take 0 (.closed true)), .crew (.take 1 (.began false)), .crew (.openReader 1),
    .crew (.takeTurn 1), .answer 1 (.ok (sample .pending)), .crew (.take 1 .admitted),
    .start 1 (.error (.status 500 "start failed")), .crew (.take 1 .acknowledged),
    .crew (.takeTurn 1), .answer 1 (.ok (sample .pending)), .crew (.take 1 .admitted),
    .crew (.interrupt queue), .start 1 (.ok ()), .crew (.take 1 .acknowledged),
    .crew (.takeTurn 1), .crew (.take 1 (.closed false)), .crew (.openReader 1),
    .crew (.takeTurn 1), .answer 1 (.ok (sample .pending)), .answer 1 (.ok (sample .running))]

theorem restarted_once :
    let work : Work := .worker sampleId
    let actions := restarted "workers"
    let record := (run (fun _ => "workers") (fun _ => .worker) actions).record
    let reader : ReaderRef := ⟨"workers", 1⟩
    (∀ earlier, earlier <+: actions → ((run (fun _ => "workers") (fun _ => .worker)
      earlier).crew.journal.broker.queue "workers").readers.size ≤ 1) ∧
    record = [.inspected 0 ⟨⟨"workers", 0⟩, ⟨0, "clean"⟩⟩ (.dispatch work),
      .inspected 1 ⟨reader, ⟨0, "clean"⟩⟩ (.dispatch work),
      .inspected 1 ⟨reader, ⟨1, "clean"⟩⟩ (.dispatch work), .started 1 work,
      .inspected 1 ⟨⟨"workers", 2⟩, ⟨2, "clean"⟩⟩ .discard] ∧
    (record.filterMap Mark.started?).count work ≤ 1 := by
  intro work actions record reader
  have all : ∀ earlier ∈ actions.inits, ((run (fun _ => "workers") (fun _ => .worker)
      earlier).crew.journal.broker.queue "workers").readers.size ≤ 1 := by
    decide +kernel
  have single : ∀ earlier, earlier <+: actions → ((run (fun _ => "workers") (fun _ => .worker)
      earlier).crew.journal.broker.queue "workers").readers.size ≤ 1 :=
    fun earlier shorter => all earlier ((List.mem_inits _ _).2 shorter)
  refine ⟨single, by decide +kernel, ?_⟩
  exact (started_once (fun _ => "workers") (fun _ => .worker) "workers" work actions single
    fun _ _ => rfl).1

end Shift

end Consumer

end Turnstile
