import Mathlib.Data.List.Induction
import Turnstile.Proofs.Http.Pages
import Turnstile.Proofs.Synchronizer.Routine
import Turnstile.Proofs.Work

/-!
# Only pending work is dispatched

What becomes of a message is decided by what the API tells about its event at that moment. The
decision is to dispatch just if the text of the message asks for a piece of work, the event is
there, and that piece of work is pending in it; a worker's phase does not matter for its jobs
(`Disposition.dispatches_pending`).

Defaults and unknown phases never count as pending, down to the text of the answer. In the tree
that an answer describes, the phase of a piece of work stands at the end of a path of parts
(`Work.phaseTree?`). A dispatch needs every part of that path to be there, and the name PENDING at
its end.
-/

set_option autoImplicit false

namespace Turnstile

open Json Http

/-! ## Paths into a tree -/

namespace Json.Tree

/-- A part of a record that can have the named parts. -/
def part? (names : List String) (name : String) (tree : Tree) : Option Tree :=
  (tree.parts? names).bind (·.get? name)

/-- The value of a key in a table: the last one, if there are several. -/
def entry? (key : String) : Tree → Option Tree
  | .record members => (members.reverse.find? fun member => member.1.text? = some key).map (·.2)
  | _ => none

/-- A variant is named by a string, or by the key of a record that has nothing else in it. -/
theorem variant?_eq_some_iff {tree : Tree} {name : String} :
    tree.variant? = some name ↔ ∃ token : Token, token.text? = some name ∧
      (tree = .text token ∨ tree = .record [(token, .null)]) := by
  constructor
  · intro named
    unfold variant? at named
    split at named
    · exact ⟨_, named, .inl rfl⟩
    · exact ⟨_, named, .inr rfl⟩
    · cases named
  · rintro ⟨token, named, rfl | rfl⟩
    · exact named
    · exact named

theorem part?_of_parts? {names : List String} {tree : Tree} {parts : Parts}
    (given : tree.parts? names = some parts) (name : String) :
    tree.part? names name = parts.get? name := by
  rw [part?, given, Option.bind_some]

/-- A part with a default is what the part says, unless it says the default. -/
theorem getOr_eq_some_iff {α : Type} {parts : Parts} {name : String} {default value : α}
    {decode : Tree → Option α} (other : value ≠ default) :
    parts.getOr name default decode = some value ↔
      ∃ part, parts.get? name = some part ∧ decode part = some value := by
  unfold Parts.getOr
  cases parts.get? name with
  | none => simp [other.symm]
  | some part => simp

theorem part_getOr_eq_some_iff {α : Type} {names : List String} {name : String}
    {default value : α} {decode : Tree → Option α} {tree : Tree} (other : value ≠ default) :
    ((tree.parts? names).bind fun parts => parts.getOr name default decode) = some value ↔
      ∃ part, tree.part? names name = some part ∧ decode part = some value := by
  cases given : tree.parts? names with
  | none => simp [part?, given]
  | some parts =>
    rw [Option.bind_some, getOr_eq_some_iff other, part?_of_parts? given]

end Json.Tree

namespace Table

theorem get?_ofList_append {κ ν : Type} [DecidableEq κ] (bindings : List (κ × ν))
    (binding : κ × ν) (key : κ) :
    (ofList (bindings ++ [binding])).get? key =
      if binding.1 = key then some binding.2 else (ofList bindings).get? key := by
  rw [ofList, List.foldl_append]
  split
  · rename_i same
    rw [← same]
    exact get?_set_self _ _ _
  · rename_i different
    exact get?_set_of_ne _ _ (Ne.symm different)

end Table

/-- Of equal keys the last one holds, so the value of a key is found from the end. -/
theorem Json.get?_of_mapM {α : Type} {decode : Tree → Option α} {members : List (Token × Tree)}
    {bindings : List (String × α)}
    (each : (members.mapM fun member => do
      return (← member.1.text?, ← decode member.2)) = some bindings) (key : String) :
    (Table.ofList bindings).get? key =
      ((members.reverse.find? fun member => member.1.text? = some key).map (·.2)).bind decode := by
  induction members using List.reverseRecOn generalizing bindings with
  | nil =>
    cases each
    rfl
  | append_singleton members member ih =>
    obtain ⟨token, value⟩ := member
    rw [List.mapM_append] at each
    obtain ⟨earlier, eachEarlier, each⟩ := Option.bind_eq_some_iff.1 each
    obtain ⟨last, eachLast, same⟩ := Option.bind_eq_some_iff.1 each
    obtain rfl := Option.some.inj same
    simp only [List.mapM_cons, List.mapM_nil, Option.pure_def, Option.bind_eq_bind,
      Option.bind_eq_some_iff, Option.some.injEq] at eachLast
    obtain ⟨_, ⟨name, named, decoded, means, rfl⟩, _, rfl, rfl⟩ := eachLast
    rw [Table.get?_ofList_append, List.reverse_append, List.reverse_singleton,
      List.singleton_append, List.find?_cons, ih eachEarlier]
    by_cases here : name = key
    · simp [named, here, means]
    · simp [named, here]

/-- A table tells of a key what its value in the tree says. -/
theorem Json.Tree.get?_of_table? {α : Type} {decode : Tree → Option α} {tree : Tree}
    {table : Table String α} (read : tree.table? decode = some table) (key : String) :
    table.get? key = (tree.entry? key).bind decode := by
  cases tree with
  | record members =>
    obtain ⟨bindings, each, same⟩ := Option.bind_eq_some_iff.1 read
    obtain rfl := Option.some.inj same
    exact get?_of_mapM each key
  | _ => cases read

/-! ## Where a phase stands -/

namespace Phase

theorem ofText_eq_pending_iff {text : String} : ofText text = .pending ↔ text = "PENDING" := by
  constructor
  · intro pending
    unfold ofText at pending
    cases found : named.find? fun phase => phase.text = text with
    | none =>
      rw [found] at pending
      cases pending
    | some phase =>
      rw [found, Option.getD_some] at pending
      have same : phase.text = text := by
        simpa only [decide_eq_true_eq] using List.find?_some found
      rw [← same, pending]
      rfl
  · rintro rfl
    exact ofText_text .pending

theorem ofTree?_eq_pending_iff {tree : Tree} :
    ofTree? tree = some .pending ↔ tree.variant? = some "PENDING" := by
  rw [ofTree?, Option.map_eq_some_iff]
  constructor
  · rintro ⟨text, named, pending⟩
    rw [named, ofText_eq_pending_iff.1 pending]
  · intro named
    exact ⟨_, named, ofText_eq_pending_iff.2 rfl⟩

/-- The phase in a status. -/
def inStatus? (tree : Tree) : Option Tree := tree.part? ["phase"] "phase"

theorem ofStatus?_eq_pending_iff {tree : Tree} :
    ofStatus? tree = some .pending ↔
      ∃ phase, inStatus? tree = some phase ∧ phase.variant? = some "PENDING" := by
  rw [ofStatus?]
  refine (Tree.part_getOr_eq_some_iff (by decide)).trans ?_
  simp only [ofTree?_eq_pending_iff, inStatus?]

theorem ofJob?_eq_pending_iff {tree : Tree} :
    ofJob? tree = some .pending ↔ ∃ phase,
      ((tree.part? ["status"] "status").bind inStatus?) = some phase ∧
        phase.variant? = some "PENDING" := by
  rw [ofJob?]
  refine (Tree.part_getOr_eq_some_iff (by decide)).trans ?_
  simp only [ofStatus?_eq_pending_iff, Option.bind_eq_some_iff]
  constructor
  · rintro ⟨status, isStatus, phase, isPhase, named⟩
    exact ⟨phase, ⟨status, isStatus, isPhase⟩, named⟩
  · rintro ⟨phase, ⟨status, isStatus, isPhase⟩, named⟩
    exact ⟨status, isStatus, phase, isPhase, named⟩

end Phase

namespace Event

/-- The parts of an event. -/
def partNames : List String := ["metadata", "projectID", "worker"]

/-- The parts of a worker. -/
def workerPartNames : List String := ["status", "jobs"]

/-- The phase in a worker. -/
def phaseInWorker? (tree : Tree) : Option Tree :=
  (tree.part? workerPartNames "status").bind Phase.inStatus?

/-- The phase of a job in a worker. -/
def jobPhaseInWorker? (key : String) (tree : Tree) : Option Tree := do
  let jobs ← tree.part? workerPartNames "jobs"
  let job ← jobs.entry? key
  let status ← job.part? ["status"] "status"
  Phase.inStatus? status

theorem worker?_cases {tree : Tree} {phase : Phase} {jobs : Table String Phase}
    (read : worker? tree = some (phase, jobs)) :
    (phase = .pending ↔
      ∃ part, phaseInWorker? tree = some part ∧ part.variant? = some "PENDING") ∧
    ∀ key, jobs.get? key = some .pending ↔
      ∃ part, jobPhaseInWorker? key tree = some part ∧ part.variant? = some "PENDING" := by
  simp only [worker?, Option.bind_eq_bind, Option.bind_eq_some_iff] at read
  obtain ⟨parts, given, phase', isPhase, jobs', isJobs, same⟩ := read
  cases same
  have here : ∀ name, tree.part? workerPartNames name = parts.get? name :=
    Tree.part?_of_parts? given
  constructor
  · have decided : phase = .pending ↔ ∃ status, parts.get? "status" = some status ∧
        Phase.ofStatus? status = some .pending := by
      rw [← Tree.getOr_eq_some_iff (by decide : Phase.pending ≠ .unknown), isPhase,
        Option.some.injEq]
    simp only [decided, Phase.ofStatus?_eq_pending_iff, phaseInWorker?, here,
      Option.bind_eq_some_iff]
    constructor
    · rintro ⟨status, isStatus, part, isPart, named⟩
      exact ⟨part, ⟨status, isStatus, isPart⟩, named⟩
    · rintro ⟨part, ⟨status, isStatus, isPart⟩, named⟩
      exact ⟨status, isStatus, part, isPart, named⟩
  · intro key
    have decided : jobs.get? key = some .pending ↔ ∃ all, parts.get? "jobs" = some all ∧
        ∃ job, all.entry? key = some job ∧ Phase.ofJob? job = some .pending := by
      cases found : parts.get? "jobs" with
      | none =>
        simp only [Parts.getOr, found, Option.some.injEq] at isJobs
        simp [← isJobs]
      | some all =>
        simp only [Parts.getOr, found] at isJobs
        simp [Tree.get?_of_table? isJobs, Option.bind_eq_some_iff]
    simp only [decided, Phase.ofJob?_eq_pending_iff, jobPhaseInWorker?, here,
      Option.bind_eq_bind, Option.bind_eq_some_iff]
    constructor
    · rintro ⟨all, isAll, job, isJob, part, ⟨status, isStatus, isPart⟩, named⟩
      exact ⟨part, ⟨all, isAll, job, isJob, status, isStatus, isPart⟩, named⟩
    · rintro ⟨part, ⟨all, isAll, job, isJob, status, isStatus, isPart⟩, named⟩
      exact ⟨all, isAll, job, isJob, part, ⟨status, isStatus, isPart⟩, named⟩

end Event

namespace Work

/-- The work is pending in its event. For a job the phase of the worker does not matter. -/
def IsPendingIn (event : Event) : Work → Prop
  | worker _ => event.phase = .pending
  | job _ name => event.jobs.get? name.text = some .pending

/-- Where the tree of an event has the phase of a piece of work. -/
def phaseTree? (tree : Tree) : Work → Option Tree
  | worker _ => (tree.part? Event.partNames "worker").bind Event.phaseInWorker?
  | job _ name => (tree.part? Event.partNames "worker").bind (Event.jobPhaseInWorker? name.text)

/-- **What is pending in an event stands as PENDING in its tree**, at the place of its phase. -/
theorem isPendingIn_iff {tree : Tree} {event : Event} (read : Event.ofTree? tree = some event)
    (work : Work) :
    work.IsPendingIn event ↔
      ∃ part, work.phaseTree? tree = some part ∧ part.variant? = some "PENDING" := by
  simp only [Event.ofTree?, Option.bind_eq_bind, Option.bind_eq_some_iff] at read
  obtain ⟨parts, given, _, _, _, _, ⟨phase, jobs⟩, isWorker, same⟩ := read
  cases same
  have here : tree.part? Event.partNames "worker" = parts.get? "worker" :=
    Tree.part?_of_parts? given "worker"
  cases found : parts.get? "worker" with
  | none =>
    simp only [Parts.getOr, found, Option.some.injEq, Prod.mk.injEq] at isWorker
    obtain ⟨rfl, rfl⟩ := isWorker
    cases work <;> simp [IsPendingIn, phaseTree?, here, found]
  | some worker =>
    simp only [Parts.getOr, found] at isWorker
    obtain ⟨ofWorker, ofJobs⟩ := Event.worker?_cases isWorker
    cases work with
    | worker event => simpa [IsPendingIn, phaseTree?, here, found] using ofWorker
    | job event name => simpa [IsPendingIn, phaseTree?, here, found] using ofJobs name.text

theorem isWanted_iff {work : Work} {answer : Except ApiFault Event} :
    work.isWanted answer ↔ ∃ event, answer = .ok event ∧ work.IsPendingIn event := by
  cases answer with
  | error fault => simp [isWanted]
  | ok event =>
    cases work <;> simp [isWanted, phaseIn?, IsPendingIn, Event.jobPhase?]

end Work

/-! ## What the API tells -/

namespace EventClient

/-- An event is told if the peer can be asked and its answer means success, has a whole body, and
that body reads as an event. -/
theorem getEvent_eq_ok_iff {client : Client} {peer : Peer} {id : EventId} {event : Event} :
    (getEvent client peer id).result = .ok event ↔
      (client.request? peer.origin .get (eventPath id) []).isSome ∧
      ∃ status body bytes tree, peer.next.1 = .response status body ∧ isSuccess status ∧
        body.bytes? = some bytes ∧ read? bytes = some tree ∧ Event.ofTree? tree = some event := by
  have toOption : (getEvent client peer id).result.toOption =
      (peer.call (client.request? peer.origin .get (eventPath id) [])).1.page? Event.ofJson? :=
    toOption_decode (subject (.worker id)) Event.ofJson? _
  have told : (getEvent client peer id).result = .ok event ↔
      (getEvent client peer id).result.toOption = some event := by
    cases (getEvent client peer id).result <;> simp [Except.toOption]
  rw [told, toOption]
  cases client.request? peer.origin .get (eventPath id) [] with
  | none => simp [Peer.call, Answer.page?]
  | some request =>
    simp only [Peer.call, Option.isSome_some, true_and]
    cases peer.next.1 with
    | broken => simp [Answer.page?]
    | response status body => simp [Answer.page?, Event.ofJson?, Option.bind_eq_some_iff]

end EventClient

/-! ## Decisions -/

namespace Disposition

variable (kind : WorkKind) (body : String) (answer : EventId → Except ApiFault Event)

theorem ofMessage_eq_dispatch_iff_isPendingIn {work : Work} :
    (ofMessage kind body answer).1 = .dispatch work ↔
      work.IsAskedBy kind body ∧
        ∃ event, answer work.event = .ok event ∧ work.IsPendingIn event := by
  rw [ofMessage_eq_dispatch_iff, Work.ofMessage?_eq_some_iff, Work.isWanted_iff]

/-- A message that asks for work takes one call, and any other takes none and is discarded. -/
theorem calls_ofMessage :
    (∃ work : Work, work.IsAskedBy kind body ∧
      (ofMessage kind body answer).2 = [.getEvent work.event]) ∨
    ((∀ work : Work, ¬ work.IsAskedBy kind body) ∧
      ofMessage kind body answer = (.discard, [])) := by
  cases asked : Work.ofMessage? kind body with
  | none =>
    refine .inr ⟨fun work asks => ?_, by rw [ofMessage, asked]⟩
    cases asked.symm.trans (Work.ofMessage?_eq_some_iff.2 asks)
  | some work =>
    exact .inl ⟨work, Work.ofMessage?_eq_some_iff.1 asked, by rw [ofMessage, asked]⟩

end Disposition

namespace Simulation.World

/-- The notes of calls to the API, latest first. -/
def notesOf (world : World) (calls : List ApiCall) : List (Nat × Notice) :=
  (calls.map fun call => (world.now, .called call)).reverse

variable (world : World) (number : Nat) (task : Task) (consumer : ConsumerTask)

@[simp] theorem log_waitForReply (delay : Nat) (reply : PendingReply) :
    (world.waitForReply number consumer delay reply).log = world.log := by
  simp [waitForReply]

/-- A consumer that inspects a message makes the calls of the decision. -/
theorem log_makeCall_inspect (parcel : Parcel) (answer : EventId → Except ApiFault Event) :
    (world.makeCall number task consumer (.inspect parcel)).log =
      world.notesOf (Disposition.ofMessage consumer.kind parcel.body answer).2 ++ world.log := by
  rw [makeCall, beginInspecting, Disposition.ofMessage]
  cases Work.ofMessage? consumer.kind parcel.body with
  | none => simp [notesOf]
  | some work => simp [notesOf, note]

/-- A consumer that dispatches work makes the calls of a decision to do so. -/
theorem log_makeCall_dispatch (work : Work) :
    (world.makeCall number task consumer (.dispatch work)).log =
      world.notesOf (Disposition.dispatch work).startCalls ++ world.log := by
  simp [makeCall, Disposition.startCalls, notesOf, note]

end Simulation.World

/-- **Only pending work is dispatched.** A message on a queue of workers leads to a dispatch just if
it is an event's identifier, the event is told and its worker is pending; one on a queue of jobs just
if it is an event's identifier, a colon and a job's name, the event is told and has a job of that
name that is pending. A message that asks for no work causes no call, any other exactly one for its
event and no start; dispatched work, which is the one that the message asks for, causes exactly one
start. These are the calls that a consumer makes.

When the API answers over the web, the event is told just if the answer means success and its whole
body reads as an event; and the work is pending just if the tree of that body has every part on the
way to the phase of the work, and has there the name PENDING. -/
theorem dispatches_pending (kind : WorkKind) (body : String) :
    (∀ answer : EventId → Except ApiFault Event,
      let decision := Disposition.ofMessage kind body answer
      (∀ work, decision.1 = .dispatch work ↔ work.IsAskedBy kind body ∧
        ∃ event, answer work.event = .ok event ∧ work.IsPendingIn event) ∧
      ((∃ work : Work, work.IsAskedBy kind body ∧ decision.2 = [.getEvent work.event]) ∨
        ((∀ work : Work, ¬ work.IsAskedBy kind body) ∧ decision = (.discard, []))) ∧
      ∀ (world : Simulation.World) number task consumer, consumer.kind = kind →
        (∀ parcel : Simulation.Parcel, parcel.body = body →
          (world.makeCall number task consumer (.inspect parcel)).log =
            world.notesOf decision.2 ++ world.log) ∧
        ∀ work, (world.makeCall number task consumer (.dispatch work)).log =
          world.notesOf [.start work] ++ world.log) ∧
    ∀ (client : Client) (peer : Peer) (work : Work),
      (Disposition.ofMessage kind body fun event =>
        (EventClient.getEvent client peer event).result).1 = .dispatch work ↔
      work.IsAskedBy kind body ∧
      (client.request? peer.origin .get (EventClient.eventPath work.event) []).isSome ∧
      ∃ status answer bytes tree, peer.next.1 = .response status answer ∧ isSuccess status ∧
        answer.bytes? = some bytes ∧ read? bytes = some tree ∧ (Event.ofTree? tree).isSome ∧
        ∃ phase, work.phaseTree? tree = some phase ∧ ∃ token : Token,
          token.text? = some "PENDING" ∧ (phase = .text token ∨ phase = .record [(token, .null)]) := by
  constructor
  · intro answer decision
    refine ⟨fun work => Disposition.ofMessage_eq_dispatch_iff_isPendingIn kind body answer,
      Disposition.calls_ofMessage kind body answer, ?_⟩
    rintro world number task consumer rfl
    refine ⟨?_, fun work => world.log_makeCall_dispatch number task consumer work⟩
    rintro parcel rfl
    exact world.log_makeCall_inspect number task consumer parcel answer
  · intro client peer work
    rw [Disposition.ofMessage_eq_dispatch_iff_isPendingIn]
    simp only [EventClient.getEvent_eq_ok_iff]
    refine and_congr_right fun _ => ⟨?_, ?_⟩
    · rintro ⟨event, ⟨asked, status, answer, bytes, tree, given, succeeds, whole, isTree, read⟩,
        pending⟩
      obtain ⟨phase, isPhase, named⟩ := (Work.isPendingIn_iff read work).1 pending
      exact ⟨asked, status, answer, bytes, tree, given, succeeds, whole, isTree,
        Option.isSome_iff_exists.2 ⟨event, read⟩, phase, isPhase, Tree.variant?_eq_some_iff.1 named⟩
    · rintro ⟨asked, status, answer, bytes, tree, given, succeeds, whole, isTree, isEvent, phase,
        isPhase, named⟩
      obtain ⟨event, read⟩ := Option.isSome_iff_exists.1 isEvent
      have pending := (Work.isPendingIn_iff read work).2
        ⟨phase, isPhase, Tree.variant?_eq_some_iff.2 named⟩
      exact ⟨event, ⟨asked, status, answer, bytes, tree, given, succeeds, whole, isTree, read⟩,
        pending⟩

/-- An event whose worker is running and has a job that is pending. -/
def runningEvent : Event where
  id := ⟨"e1", by decide +kernel⟩
  project := none
  phase := .running
  jobs := ⟨[("build", .pending)]⟩

theorem dispatches_pending_runningEvent :
    let name : JobName := ⟨"build", by decide +kernel⟩
    (Disposition.ofMessage .job "e1:build" fun _ => .ok runningEvent).1 =
        .dispatch (.job runningEvent.id name) ∧
      ∀ work, (Disposition.ofMessage .worker "e1" fun _ => .ok runningEvent).1 ≠
        .dispatch work := by
  intro name
  obtain ⟨job, _, _⟩ := (dispatches_pending .job "e1:build").1 fun _ => .ok runningEvent
  obtain ⟨worker, _, _⟩ := (dispatches_pending .worker "e1").1 fun _ => .ok runningEvent
  constructor
  · exact (job _).2 ⟨.job runningEvent.id name, runningEvent, rfl, rfl⟩
  · intro work dispatched
    obtain ⟨asks, event, told, pending⟩ := (worker work).1 dispatched
    obtain rfl := Except.ok.inj told
    cases work with
    | worker id => cases pending
    | job id name => cases (Work.isAskedBy_iff.1 asks).1

end Turnstile
