import Turnstile.Amqp.Server
import Turnstile.Proofs.Consumer.Run
import Turnstile.Proofs.Retry
import Turnstile.Proofs.Text.Utf8
import Turnstile.Proofs.Work

/-!
# Messages without text

A body has a text if its bytes, joined over all sections, are those of a text
(`Body.text?_data_eq_some_iff`). A body without one is delivered as the empty text, which names no
work on a queue of either kind.

A `Station` is a consumer loop that reads from an AMQP peer: it takes the messages that its link
receives, inspects them, starts work and settles messages on the link, while anything else comes to
it at any time. On its **record** are what can be seen of the loop, the calls to the orchestration
API and the settlements. From the moment at which a message without text is received the record
goes on with its `disposal`, or with the loop's leaving it when it is cancelled during the
inspection (`Disposal.act`).
-/

set_option autoImplicit false

namespace Turnstile

namespace Amqp

/-! ## Texts -/

namespace Body

/-- The text of data is that of their bytes as one binary value. -/
theorem text?_data (sections : List (List UInt8)) :
    (data sections).text? = (value (.binary sections.flatten)).text? := rfl

/-- Data are a text just if their bytes are the bytes of this text. -/
theorem text?_data_eq_some_iff {sections : List (List UInt8)} {text : String} :
    (data sections).text? = some text ↔ sections.flatten.toByteArray = text.toByteArray :=
  Utf8.decode?_eq_some_iff_toByteArray

/-- A character may straddle sections. -/
example : (data [[0x63, 0xc3], [], [0xa9]]).text? = some "cé" := text?_data_eq_some_iff.2 (by rfl)

/-- Only data, strings and binary values can have a text. -/
theorem text?_eq_none {body : Body} (noData : ∀ sections, body ≠ data sections)
    (noText : ∀ text, body ≠ value (.text text))
    (noBinary : ∀ bytes, body ≠ value (.binary bytes)) : body.text? = none := by
  cases body with
  | data sections => exact absurd rfl (noData sections)
  | sequence items => rfl
  | empty => rfl
  | value value =>
    cases value with
    | text text => exact absurd rfl (noText text)
    | binary bytes => exact absurd rfl (noBinary bytes)
    | _ => rfl

theorem delivered_of_text?_eq_none {body : Body} (textless : body.text? = none) :
    body.delivered = "" := by
  rw [delivered, textless]
  rfl

end Body

end Amqp

/-- The empty text names no work. -/
theorem Work.ofMessage?_empty (kind : WorkKind) : Work.ofMessage? kind "" = none := by
  cases kind <;> rfl

theorem Disposition.ofMessage_empty (kind : WorkKind) (answer : EventId → Except ApiFault Event) :
    Disposition.ofMessage kind "" answer = (.discard, []) := by
  rw [ofMessage, Work.ofMessage?_empty]

namespace Amqp

variable {τ κ σ ρ : Type}

/-- What a reader delivers that receives a body. -/
theorem Reader.read_of_received {peer : Peer (StateM τ) κ σ ρ} {reader : Reader σ ρ} {link : ρ}
    {state later : τ} {body : Body} (open_ : reader.link = some link)
    (received : (peer.receive link).run state = (.ok (some body), later)) :
    (reader.read peer).run state = (.ok (some body.delivered), later) := by
  rw [read, open_]
  exact run_bind_of_run received

theorem Reader.acknowledge_of_link {peer : Peer (StateM τ) κ σ ρ} {reader : Reader σ ρ} {link : ρ}
    (open_ : reader.link = some link) (state : τ) :
    ((reader.acknowledge peer).run state).2 = ((peer.accept link).run state).2 := by
  rw [acknowledge, open_]
  rfl

/-! ## Stations -/

/-- What is on record of a station. -/
inductive Mark (σ ρ : Type) where
  /-- Something is seen of the loop. -/
  | seen (occurrence : Consumer.Occurrence (Reader σ ρ) String)
  /-- The orchestration API is called. -/
  | asked (call : ApiCall)
  /-- The peer is told to settle the message that the link has delivered. -/
  | settled (link : ρ)

/-- A consumer loop with the state of its AMQP peer and its record, earliest first. -/
structure Station (τ σ ρ : Type) where
  peer : τ
  loop : Consumer.Loop (Reader σ ρ) String
  record : List (Mark σ ρ)

namespace Station

/-- What can happen at a station. -/
inductive Action (σ ρ : Type) where
  /-- The token of the loop is cancelled. -/
  | cancel
  /-- Something comes to the loop that is not of its own doing. -/
  | take (input : Consumer.Input (Reader σ ρ) String)
  /-- The reader looks for a message. -/
  | read
  /-- The inspection calls the API, and is not answered yet. -/
  | ask (answer : EventId → Except ApiFault Event)
  /-- The inspection comes to an end. -/
  | inspect (answer : EventId → Except ApiFault Event)
  /-- The work is started. -/
  | start
  /-- The message is settled. -/
  | acknowledge

/-- Whether an input is the outcome of what the station itself does. -/
def isOwn : Consumer.Input (Reader σ ρ) String → Bool
  | .received _ => true
  | .inspected _ => true
  | .dispatched => true
  | .acknowledged => true
  | _ => false

/-- The station with more on record. -/
def note (station : Station τ σ ρ) (marks : List (Mark σ ρ)) : Station τ σ ρ :=
  { station with record := station.record ++ marks }

/-- The station after an input to its loop. -/
def feed (station : Station τ σ ρ) (input : Consumer.Input (Reader σ ρ) String) :
    Station τ σ ρ :=
  let loop := station.loop.act (.take input)
  { station with loop }.note ((loop.trace.drop station.loop.trace.length).map .seen)

/-- The station after an action. -/
def act (kind : WorkKind) (peer : Peer (StateM τ) κ σ ρ) (station : Station τ σ ρ) :
    Action σ ρ → Station τ σ ρ
  | .cancel => { station with loop := station.loop.act .cancel }
  | .take input => if isOwn input then station else station.feed input
  | .read =>
    match station.loop.stage with
    | .reading reader =>
      let (result, later) := (reader.read peer).run station.peer
      let station := { station with peer := later }
      match result with
      | .ok none => station
      | .ok (some text) => station.feed (.received (.ok text))
      | .error fault => station.feed (.received (.error fault))
    | _ => station
  | .ask answer =>
    match station.loop.stage with
    | .inspecting _ text => station.note ((Disposition.ofMessage kind text answer).2.map .asked)
    | _ => station
  | .inspect answer =>
    match station.loop.stage with
    | .inspecting _ text =>
      let (disposition, calls) := Disposition.ofMessage kind text answer
      (station.note (calls.map .asked)).feed (.inspected disposition)
    | _ => station
  | .start =>
    match station.loop.stage with
    | .dispatching _ _ work =>
      (station.note ((Disposition.dispatch work).startCalls.map .asked)).feed .dispatched
    | _ => station
  | .acknowledge =>
    match station.loop.stage with
    | .acknowledging reader _ =>
      let later := ((reader.acknowledge peer).run station.peer).2
      ({ station with peer := later }.note (reader.link.toList.map .settled)).feed .acknowledged
    | _ => station

/-- The station after a list of actions. -/
def run (kind : WorkKind) (peer : Peer (StateM τ) κ σ ρ) (station : Station τ σ ρ)
    (actions : List (Action σ ρ)) : Station τ σ ρ :=
  actions.foldl (act kind peer) station

variable {kind : WorkKind} {peer : Peer (StateM τ) κ σ ρ} {station : Station τ σ ρ}

theorem feed_of_next? {input : Consumer.Input (Reader σ ρ) String}
    {stage : Consumer.Stage (Reader σ ρ) String}
    (next : station.loop.stage.next? input = some stage)
    (agrees : input.agrees station.loop.isCancelled = true) :
    station.feed input =
      { station with loop := station.loop.enter input stage }.note
        ((stage.entry input).map .seen) := by
  have entered : station.loop.act (.take input) = station.loop.enter input stage := by
    simp [Consumer.Loop.act, next, agrees]
  rw [feed, entered, Consumer.Loop.enter, List.drop_left]

/-- An input is passed over, or is a move of the loop. -/
theorem feed_cases (station : Station τ σ ρ) (input : Consumer.Input (Reader σ ρ) String) :
    station.feed input = station ∨
    ∃ stage, input.agrees station.loop.isCancelled = true ∧
      Consumer.Move station.loop.stage input stage ∧
      station.feed input =
        { station with loop := station.loop.enter input stage }.note
          ((stage.entry input).map .seen) := by
  have passed (same : station.loop.act (.take input) = station.loop) :
      station.feed input = station := by
    rw [feed, same, List.drop_length, note, List.map_nil, List.append_nil]
  cases next : station.loop.stage.next? input with
  | none => exact .inl (passed (by simp [Consumer.Loop.act, next]))
  | some stage =>
    by_cases agrees : input.agrees station.loop.isCancelled = true
    · exact .inr ⟨stage, agrees, .of_next? next, feed_of_next? next agrees⟩
    · exact .inl (passed (by simp [Consumer.Loop.act, next, agrees]))

/-- What is on record stays there, and a token that is cancelled stays so. -/
structure Continues (station later : Station τ σ ρ) : Prop where
  record : station.record <+: later.record
  cancelled : station.loop.isCancelled = true → later.loop.isCancelled = true

theorem Continues.rfl : station.Continues station := ⟨List.prefix_rfl, id⟩

theorem continues_feed (station : Station τ σ ρ) (input : Consumer.Input (Reader σ ρ) String) :
    station.Continues (station.feed input) := by
  rcases station.feed_cases input with same | ⟨stage, _, _, fed⟩
  · rw [same]
    exact .rfl
  · rw [fed]
    exact ⟨List.prefix_append _ _, id⟩

theorem continues_feed_note (station : Station τ σ ρ) (later : τ) (marks : List (Mark σ ρ))
    (input : Consumer.Input (Reader σ ρ) String) :
    station.Continues (({ station with peer := later }.note marks).feed input) := by
  have fed := ({ station with peer := later }.note marks).continues_feed input
  exact ⟨(List.prefix_append _ _).trans fed.record, fed.cancelled⟩

theorem continues_act (kind : WorkKind) (peer : Peer (StateM τ) κ σ ρ) (station : Station τ σ ρ)
    (action : Action σ ρ) : station.Continues (station.act kind peer action) := by
  cases action with
  | cancel => exact ⟨List.prefix_rfl, fun _ => Eq.refl true⟩
  | take input =>
    simp only [act]
    split
    · exact .rfl
    · exact station.continues_feed input
  | read =>
    have fed (later : τ) (input : Consumer.Input (Reader σ ρ) String) :
        station.Continues ({ station with peer := later }.feed input) :=
      have fed := { station with peer := later }.continues_feed input
      ⟨fed.record, fed.cancelled⟩
    simp only [act]
    split
    · split
      split
      · exact ⟨List.prefix_rfl, id⟩
      · exact fed _ _
      · exact fed _ _
    · exact .rfl
  | ask answer =>
    simp only [act]
    split
    · exact ⟨List.prefix_append _ _, id⟩
    · exact .rfl
  | inspect answer =>
    simp only [act]
    split
    · exact station.continues_feed_note _ _ _
    · exact .rfl
  | start =>
    simp only [act]
    split
    · exact station.continues_feed_note _ _ _
    · exact .rfl
  | acknowledge =>
    simp only [act]
    split
    · exact station.continues_feed_note _ _ _
    · exact .rfl

/-! ## From the message to its settlement -/

section Equations

variable {reader : Reader σ ρ} {link : ρ}

/-- A reader receives a body and delivers its text. -/
theorem act_read {body : Body} {later : τ} (stage : station.loop.stage = .reading reader)
    (open_ : reader.link = some link)
    (received : (peer.receive link).run station.peer = (.ok (some body), later)) :
    station.act kind peer .read =
      { station with
        peer := later
        loop := station.loop.enter (.received (.ok body.delivered))
          (.inspecting reader body.delivered) }.note
        [.seen (.took (.received (.ok body.delivered))),
          .seen (.called (.inspect body.delivered))] := by
  have next : station.loop.stage.next? (.received (.ok body.delivered)) =
      some (.inspecting reader body.delivered) := by
    rw [stage]
    rfl
  have fed : station.act kind peer .read =
      { station with peer := later }.feed (.received (.ok body.delivered)) := by
    simp only [act, stage, Reader.read_of_received open_ received]
  have entered : { station with peer := later }.feed (.received (.ok body.delivered)) = _ :=
    feed_of_next? next rfl
  rw [fed, entered]
  rfl

/-- The inspection of the empty text ends without a call. -/
theorem act_inspect_empty (stage : station.loop.stage = .inspecting reader "")
    (answer : EventId → Except ApiFault Event) :
    station.act kind peer (.inspect answer) =
      { station with
        loop := station.loop.enter (.inspected .discard) (.acknowledging reader "") }.note
        [.seen (.took (.inspected .discard)), .seen (.called (.acknowledge ""))] := by
  have next : station.loop.stage.next? (.inspected .discard) = some (.acknowledging reader "") := by
    rw [stage]
    rfl
  have fed : station.act kind peer (.inspect answer) = station.feed (.inspected .discard) := by
    simp only [act, stage, Disposition.ofMessage_empty, note, List.map_nil, List.append_nil]
  rw [fed, feed_of_next? next rfl]
  rfl

/-- A message is settled on its link, and the next one is read. -/
theorem act_acknowledge {text : String} (stage : station.loop.stage = .acknowledging reader text)
    (open_ : reader.link = some link) :
    station.act kind peer .acknowledge =
      { station with
        peer := ((peer.accept link).run station.peer).2
        loop := station.loop.enter .acknowledged (.reading reader) }.note
        [.settled link, .seen (.took .acknowledged), .seen (.called (.read reader))] := by
  have next : station.loop.stage.next? .acknowledged = some (.reading reader) := by
    rw [stage]
    rfl
  let settled := { station with peer := ((peer.accept link).run station.peer).2 }.note
    [.settled link]
  have fed : station.act kind peer .acknowledge = settled.feed .acknowledged := by
    simp only [act, stage, Reader.acknowledge_of_link open_, open_]
    rfl
  have entered : settled.feed .acknowledged = _ := feed_of_next? next rfl
  rw [fed, entered]
  exact congrArg (Station.mk _ _) (List.append_assoc _ _ _)

end Equations

end Station

/-! ## What becomes of a message without text -/

/-- The disposal of a message without text that the link has delivered: the inspection calls nobody,
and the message is settled. -/
def disposal (link : ρ) : List (Mark σ ρ) :=
  [.seen (.called (.inspect "")), .seen (.took (.inspected .discard)),
    .seen (.called (.acknowledge "")), .settled link, .seen (.took .acknowledged)]

/-- A loop that is cancelled during the inspection leaves the message. -/
def leaving : List (Mark σ ρ) := [.seen (.called (.inspect "")), .seen (.took .cancelled)]

/-- How far the disposal of a message has come. -/
inductive Disposal (reader : Reader σ ρ) (link : ρ) (loop : Consumer.Loop (Reader σ ρ) String) :
    List (Mark σ ρ) → Prop where
  | inspecting (stage : loop.stage = .inspecting reader "") :
    Disposal reader link loop ((disposal link).take 1)
  | acknowledging (stage : loop.stage = .acknowledging reader "") :
    Disposal reader link loop ((disposal link).take 3)
  | settled (later : List (Mark σ ρ)) : Disposal reader link loop (disposal link ++ later)
  | left (cancelled : loop.isCancelled = true) (later : List (Mark σ ρ)) :
    Disposal reader link loop (leaving ++ later)

namespace Disposal

variable {kind : WorkKind} {peer : Peer (StateM τ) κ σ ρ} {station : Station τ σ ρ}
  {reader : Reader σ ρ} {link : ρ} {since : List (Mark σ ρ)}

/-- Where nothing changes the disposal goes on as it is. -/
theorem exists_of_eq {later : Station τ σ ρ} (disposes : Disposal reader link station.loop since)
    (same : later = station) :
    ∃ more, later.record = station.record ++ more ∧
      Disposal reader link later.loop (since ++ more) := by
  rw [same]
  exact ⟨[], (List.append_nil _).symm, (List.append_nil since).symm ▸ disposes⟩

theorem act_of_inspecting (stage : station.loop.stage = .inspecting reader "")
    (action : Station.Action σ ρ) :
    ∃ more, (station.act kind peer action).record = station.record ++ more ∧
      Disposal reader link (station.act kind peer action).loop
        ((disposal link).take 1 ++ more) := by
  have begun : Disposal reader link station.loop ((disposal link).take 1) := .inspecting stage
  cases action with
  | cancel => exact ⟨[], (List.append_nil _).symm, .inspecting stage⟩
  | take input =>
    by_cases own : Station.isOwn input = true
    · exact begun.exists_of_eq (if_pos own)
    · have fed : station.act kind peer (.take input) = station.feed input := if_neg own
      rcases station.feed_cases input with same | ⟨later, agrees, move, entered⟩
      · exact begun.exists_of_eq (fed.trans same)
      · rw [fed, entered]
        rw [stage] at move
        cases move with
        | leaveInspecting =>
          have cancelled : (station.loop.enter .cancelled (.closing reader false)).isCancelled =
              true := agrees
          exact ⟨_, rfl, .left cancelled [.seen (.called (.close reader))]⟩
        | _ => exact absurd rfl own
  | read => exact begun.exists_of_eq (by simp only [Station.act, stage])
  | ask answer =>
    refine begun.exists_of_eq ?_
    simp only [Station.act, stage, Disposition.ofMessage_empty]
    exact congrArg (Station.mk _ _) (List.append_nil _)
  | inspect answer =>
    rw [Station.act_inspect_empty stage]
    exact ⟨_, rfl, .acknowledging rfl⟩
  | start => exact begun.exists_of_eq (by simp only [Station.act, stage])
  | acknowledge => exact begun.exists_of_eq (by simp only [Station.act, stage])

theorem act_of_acknowledging (open_ : reader.link = some link)
    (stage : station.loop.stage = .acknowledging reader "") (action : Station.Action σ ρ) :
    ∃ more, (station.act kind peer action).record = station.record ++ more ∧
      Disposal reader link (station.act kind peer action).loop
        ((disposal link).take 3 ++ more) := by
  have begun : Disposal reader link station.loop ((disposal link).take 3) := .acknowledging stage
  cases action with
  | cancel => exact ⟨[], (List.append_nil _).symm, .acknowledging stage⟩
  | take input =>
    by_cases own : Station.isOwn input = true
    · exact begun.exists_of_eq (if_pos own)
    · have fed : station.act kind peer (.take input) = station.feed input := if_neg own
      rcases station.feed_cases input with same | ⟨later, _, move, _⟩
      · exact begun.exists_of_eq (fed.trans same)
      · rw [stage] at move
        cases move with
        | acknowledged => exact absurd rfl own
  | acknowledge =>
    rw [Station.act_acknowledge stage open_]
    exact ⟨_, rfl, .settled [.seen (.called (.read reader))]⟩
  | _ => exact begun.exists_of_eq (by simp only [Station.act, stage])

/-- **Whatever happens, the disposal of a message goes on.** -/
theorem act (open_ : reader.link = some link) (disposes : Disposal reader link station.loop since)
    (action : Station.Action σ ρ) :
    ∃ more, (station.act kind peer action).record = station.record ++ more ∧
      Disposal reader link (station.act kind peer action).loop (since ++ more) := by
  obtain ⟨⟨more, record⟩, cancelled⟩ := station.continues_act kind peer action
  cases disposes with
  | inspecting stage => exact act_of_inspecting stage action
  | acknowledging stage => exact act_of_acknowledging open_ stage action
  | settled later => exact ⟨more, record.symm, List.append_assoc _ _ more ▸ .settled _⟩
  | left wasCancelled later =>
    exact ⟨more, record.symm, List.append_assoc _ _ more ▸ .left (cancelled wasCancelled) _⟩

theorem run (open_ : reader.link = some link)
    (disposes : Disposal reader link station.loop since) (actions : List (Station.Action σ ρ)) :
    ∃ more, (station.run kind peer actions).record = station.record ++ more ∧
      Disposal reader link (station.run kind peer actions).loop (since ++ more) := by
  induction actions generalizing station since with
  | nil => exact ⟨[], (List.append_nil _).symm, (List.append_nil since).symm ▸ disposes⟩
  | cons action actions ih =>
    obtain ⟨first, record, goesOn⟩ := disposes.act open_ action
    obtain ⟨later, record', goesOn'⟩ := ih goesOn
    refine ⟨first ++ later, ?_, List.append_assoc _ _ _ ▸ goesOn'⟩
    exact record'.trans ((congrArg (· ++ later) record).trans (List.append_assoc _ _ _))

/-- The record of a disposal is its beginning, or begins with it, unless the loop is cancelled. -/
theorem prefixes {loop : Consumer.Loop (Reader σ ρ) String}
    (disposes : Disposal reader link loop since) :
    since <+: disposal link ∨ disposal link <+: since ∨
      (leaving <+: since ∧ loop.isCancelled = true) := by
  cases disposes with
  | inspecting _ => exact .inl (List.take_prefix _ _)
  | acknowledging _ => exact .inl (List.take_prefix _ _)
  | settled later => exact .inr (.inl (List.prefix_append _ _))
  | left cancelled later => exact .inr (.inr ⟨List.prefix_append _ _, cancelled⟩)

end Disposal

/-- **What bodies say, and what becomes of those that say nothing.** The text of data sections
depends on their bytes taken together only, as if they were one binary value, and is the text that
these are the UTF-8 bytes of; strings are their own text, and all other bodies have none. A body
without text is delivered as the empty text, on a queue of either kind: then the record goes on with
its disposal, in which the orchestration API is not called and no admission is waited for, until the
peer is told to settle the message, unless the loop is cancelled during the inspection. The end of
the inspection and the settlement are all that this takes. -/
theorem bodies_without_text_are_settled :
    (∀ sections sections' : List (List UInt8), sections.flatten = sections'.flatten →
      (Body.data sections).text? = (Body.data sections').text?) ∧
    (∀ sections, (Body.data sections).text? = (Body.value (.binary sections.flatten)).text?) ∧
    (∀ sections text, (Body.data sections).text? = some text ↔
      sections.flatten.toByteArray = text.toByteArray) ∧
    (∀ text, (Body.value (.text text)).text? = some text) ∧
    (∀ body : Body, (∀ sections, body ≠ .data sections) → (∀ text, body ≠ .value (.text text)) →
      (∀ bytes, body ≠ .value (.binary bytes)) → body.text? = none) ∧
    ∀ (kind : WorkKind) (peer : Peer (StateM τ) κ σ ρ) (station : Station τ σ ρ)
      (reader : Reader σ ρ) (link : ρ) (body : Body) (later : τ), body.text? = none →
      station.loop.stage = .reading reader → reader.link = some link →
      (peer.receive link).run station.peer = (.ok (some body), later) →
      (reader.read peer).run station.peer = (.ok (some ""), later) ∧
      (∀ more, ∃ since, (station.run kind peer (.read :: more)).record =
          station.record ++ .seen (.took (.received (.ok ""))) :: since ∧
        (since <+: disposal link ∨ disposal link <+: since ∨
          (leaving <+: since ∧
            (station.run kind peer (.read :: more)).loop.isCancelled = true))) ∧
      ∀ answer, let settled := station.run kind peer [.read, .inspect answer, .acknowledge]
        settled.record = station.record ++ .seen (.took (.received (.ok ""))) ::
          (disposal link ++ [.seen (.called (.read reader))]) ∧
        settled.loop.stage = .reading reader ∧ settled.peer = ((peer.accept link).run later).2 := by
  refine ⟨fun sections sections' same => ?_, Body.text?_data,
    fun _ _ => Body.text?_data_eq_some_iff, fun _ => rfl, fun _ => Body.text?_eq_none, ?_⟩
  · rw [Body.text?_data, Body.text?_data, same]
  · intro kind peer station reader link body later textless stage open_ received
    have empty := Body.delivered_of_text?_eq_none textless
    have delivered := Reader.read_of_received open_ received
    have reads : station.act kind peer .read = _ := Station.act_read stage open_ received
    rw [empty] at delivered reads
    refine ⟨delivered, fun more => ?_, fun answer => ?_⟩
    · have begins : Disposal reader link (station.act kind peer .read).loop
          ((disposal link).take 1) := by
        rw [reads]
        exact .inspecting rfl
      obtain ⟨marks, record, disposes⟩ := begins.run open_ more
      refine ⟨(disposal link).take 1 ++ marks, record.trans ?_, disposes.prefixes⟩
      rw [reads]
      exact List.append_assoc _ _ _
    · simp only [Station.run, List.foldl_cons, List.foldl_nil]
      rw [reads, Station.act_inspect_empty rfl, Station.act_acknowledge rfl open_]
      refine ⟨?_, rfl, rfl⟩
      simp [Station.note, disposal]

/-- Two sections that are no text when they are taken together are settled on a server, and the link
is given the next message. -/
theorem broken_text_is_settled :
    let body := Body.data [[0xc3], [0x28]]
    let messages := [("workers", [body, .value (.text "p:e")])]
    let server := { Server.fresh "" "" [] messages with connections := Table.empty.set 0 .serves }
    let reader : Reader Nat Nat := ⟨"workers", some 0, some 0⟩
    let attached := ((Server.peer.attach 0 "link" ⟨"workers", none⟩).run server).2
    let station : Station Server Nat Nat := ⟨attached, ⟨.reading reader, false, []⟩, []⟩
    let settled := station.run .worker Server.peer
      [.read, .inspect fun _ => .error (.notFound "e"), .acknowledge]
    body.text? = none ∧
      ((reader.read Server.peer).run attached).1 = .ok (some "") ∧
      settled.record = .seen (.took (.received (.ok ""))) ::
        (disposal 0 ++ [.seen (.called (.read reader))]) ∧
      settled.loop.stage = .reading reader ∧ settled.peer.settled = ["workers"] ∧
      ((reader.read Server.peer).run settled.peer).1 = .ok (some "p:e") := by
  intro body messages server reader attached station settled
  have textless : body.text? = none := by decide +kernel
  obtain ⟨-, -, -, -, -, disposed⟩ := @bodies_without_text_are_settled Server Nat Nat Nat
  obtain ⟨delivered, -, ends⟩ :=
    disposed .worker Server.peer station reader 0 body _ textless rfl rfl rfl
  obtain ⟨record, stage, peer⟩ := ends fun _ => .error (.notFound "e")
  have left : settled.peer = _ := peer
  refine ⟨textless, congrArg Prod.fst delivered, record, stage, ?_, ?_⟩
  · rw [left]
    rfl
  · rw [left]
    rfl

end Amqp

end Turnstile
