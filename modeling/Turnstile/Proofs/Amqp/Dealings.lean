import Turnstile.Proofs.Amqp.Openings

/-!
# What becomes of a client's connections

The dealings of a client with a peer are openings and closings in any order. What each of them does
and what it leaves held is an entry of their history, and one goes on from what the other left
(`Follows`, `Chained`). Seen from the peer, every act opens a connection, closes one or neither
(`Act.openAfter`), and a history of the right form never has two open (`KeepsOne`).

`served_over_one_connection` puts this together for every script and all dealings after a first dial
that succeeded.
-/

set_option autoImplicit false

namespace Turnstile.Amqp

/-! ## Histories -/

/-- What can be asked of a client. -/
inductive Call where
  | openReader (queue : String)
  | close

/-- What a client answers; an opening that used up its tries has no outcome. -/
inductive Reply where
  | opened (outcome : Option (Except QueueFault (Reader Nat Nat)))
  | closed (outcome : Except QueueFault Unit)

/-- A call with what came of it: its reply, the acts it took and the connection held after it. -/
structure Entry where
  call : Call
  reply : Reply
  acts : List Act
  kept : Option Nat

/-- A client and its peer. -/
structure Dealings where
  client : Client Nat
  script : Script

namespace Dealings

/-- The first dial, and the dealings that it leads to. -/
def start (settings : Settings.Broker) (script : Script) : Except QueueFault Unit × Dealings :=
  let ((result, client), script) := (Client.connect Script.peer settings).run script
  (result, ⟨client, script⟩)

/-- Carry out a call. An opening may take as many tries as suffice, and some more. -/
def serve (more : Nat) (dealings : Dealings) : Call → Reply × Dealings
  | .openReader queue =>
    let ((outcome, client), script) :=
      (Client.openReader Script.peer queue (dealings.script.sufficientTries + more)
        dealings.client).run dealings.script
    (.opened outcome, ⟨client, script⟩)
  | .close =>
    let ((outcome, client), script) :=
      (dealings.client.close Script.peer).run dealings.script
    (.closed outcome, ⟨client, script⟩)

/-- The entries of some calls. -/
def history (more : Nat) (dealings : Dealings) : List Call → List Entry
  | [] => []
  | call :: calls =>
    let (reply, after) := dealings.serve more call
    ⟨call, reply, after.script.acts.drop dealings.script.acts.length, after.client.held⟩ ::
      after.history more calls

end Dealings

/-- What an entry can be, where a connection or none is held before it: an opening, or a closing
that leaves nothing held. A closing can fail only if there is something to close. -/
inductive Follows (settings : Settings.Broker) (held : Option Nat) : Entry → Prop
  | opened {queue : String} {outcome : Except QueueFault (Reader Nat Nat)} {acts : List Act}
      {kept : Option Nat} (opens : Opens settings queue held acts outcome kept) :
    Follows settings held ⟨.openReader queue, .opened (some outcome), acts, kept⟩
  | closed {outcome : Except String Unit} (idle : held = none → outcome = .ok ()) :
    Follows settings held ⟨.close, .closed (outcome.mapError .connect), closings held, none⟩

/-- Entries of which each goes on from what the one before it left held. -/
inductive Chained (settings : Settings.Broker) : Option Nat → List Entry → Prop
  | nil {held : Option Nat} : Chained settings held []
  | cons {held : Option Nat} {entry : Entry} {later : List Entry}
      (follows : Follows settings held entry) (chained : Chained settings entry.kept later) :
    Chained settings held (entry :: later)

namespace Dealings

variable {more : Nat} {dealings : Dealings}

theorem exists_serve (more : Nat) (dealings : Dealings) (call : Call)
    (attempts : 1 ≤ dealings.client.settings.connectAttempts) : ∃ reply acts kept after,
    dealings.serve more call = (reply, ⟨{ dealings.client with held := kept }, after⟩) ∧
      dealings.serve 0 call = (reply, ⟨{ dealings.client with held := kept }, after⟩) ∧
      after.acts = dealings.script.acts ++ acts ∧
      Follows dealings.client.settings dealings.client.held ⟨call, reply, acts, kept⟩ := by
  obtain ⟨client, script⟩ := dealings
  cases call with
  | openReader queue =>
    obtain ⟨acts, outcome, kept, after, opened, recorded, opens⟩ :=
      client.run_openReader queue script attempts (client.needed_le script)
    have opened' := Client.run_openReader_of_more more opened
    refine ⟨.opened (some outcome), acts, kept, after, ?_, ?_, recorded, .opened opens⟩
    · rw [serve, opened']
    · rw [serve, Nat.add_zero, opened]
  | close =>
    obtain ⟨outcome, after, released, records, idle⟩ := client.run_release script
    have closed : (client.close Script.peer).run script =
        ((outcome.mapError .connect, { client with held := none }), after) :=
      run_bind_of_run released
    refine ⟨_, closings client.held, none, after, ?_, ?_, records.acts, .closed idle⟩
    · rw [serve, closed]
    · rw [serve, closed]

theorem history_cons {call : Call} {reply : Reply} {after : Dealings} {acts : List Act}
    (served : dealings.serve more call = (reply, after))
    (recorded : after.script.acts = dealings.script.acts ++ acts) (calls : List Call) :
    dealings.history more (call :: calls) =
      ⟨call, reply, acts, after.client.held⟩ :: after.history more calls := by
  have taken : after.script.acts.drop dealings.script.acts.length = acts := by
    rw [recorded, List.drop_left]
  rw [history, served, ← taken]

/-- Each entry of a history goes on from the one before it, and more tries change none of them. -/
theorem chained_history (more : Nat) (calls : List Call) (dealings : Dealings)
    (attempts : 1 ≤ dealings.client.settings.connectAttempts) :
    dealings.history more calls = dealings.history 0 calls ∧
      (dealings.history more calls).map Entry.call = calls ∧
      Chained dealings.client.settings dealings.client.held (dealings.history more calls) := by
  induction calls generalizing dealings with
  | nil => exact ⟨rfl, rfl, .nil⟩
  | cons call calls ih =>
    obtain ⟨reply, acts, kept, after, served, served', recorded, follows⟩ :=
      exists_serve more dealings call attempts
    obtain ⟨same, named, chained⟩ :=
      ih ⟨{ dealings.client with held := kept }, after⟩ attempts
    rw [history_cons served recorded, history_cons served' recorded]
    exact ⟨congrArg _ same, congrArg _ named, .cons follows chained⟩

end Dealings

/-! ## Open connections -/

/-- The connections open after an act. -/
def Act.openAfter (connections : List Nat) : Act → List Nat
  | .dialed (.ok connection) => connection :: connections
  | .closed connection => connections.erase connection
  | _ => connections

/-- The connections open after some acts. -/
def openAfter (acts : List Act) : List Nat := acts.foldl Act.openAfter []

/-- The acts lead from one connection or none to another or none, and each leaves at most one
open. -/
inductive KeepsOne : Option Nat → List Act → Option Nat → Prop
  | nil {held : Option Nat} : KeepsOne held [] held
  | cons {held next kept : Option Nat} {act : Act} {acts : List Act}
      (leads : act.openAfter held.toList = next.toList) (keeps : KeepsOne next acts kept) :
    KeepsOne held (act :: acts) kept

namespace KeepsOne

variable {settings : Settings.Broker} {queue : String} {held kept last : Option Nat}
  {acts later : List Act}

theorem trans (keeps : KeepsOne held acts kept) (next : KeepsOne kept later last) :
    KeepsOne held (acts ++ later) last := by
  induction keeps with
  | nil => exact next
  | cons leads _ ih => exact .cons leads (ih next)

/-- There is never more than one connection open. -/
theorem length_le_one (keeps : KeepsOne held acts kept) {first : List Act}
    (isFirst : first <+: acts) : (first.foldl Act.openAfter held.toList).length ≤ 1 := by
  induction keeps generalizing first with
  | nil =>
    rw [List.prefix_nil.1 isFirst]
    exact Option.length_toList_le
  | cons leads _ ih =>
    obtain rfl | ⟨rest, rfl, isFirst⟩ := List.prefix_cons_iff.1 isFirst
    · exact Option.length_toList_le
    · rw [List.foldl_cons, leads]
      exact ih (List.cons_prefix_cons.1 isFirst).2

theorem failedDials (milliseconds : Nat) (causes : List String) :
    KeepsOne held (failedDials milliseconds causes) held := by
  induction causes with
  | nil => exact .nil
  | cons cause causes ih => exact .cons rfl (.cons rfl ih)

theorem dials {outcome : Except QueueFault Nat} (dials : Dials settings acts outcome) :
    KeepsOne none acts outcome.toOption := by
  cases dials with
  | reached _ => exact (KeepsOne.failedDials _ _).trans (.cons rfl .nil)
  | exhausted _ => exact (KeepsOne.failedDials _ _).trans (.cons rfl .nil)

theorem closings (held : Option Nat) : KeepsOne held (closings held) none := by
  cases held with
  | none => exact .nil
  | some connection =>
    have closed : (Act.closed connection).openAfter [connection] = (none : Option Nat).toList :=
      List.erase_cons_head connection []
    exact .cons closed .nil

theorem reconnects {outcome : Except QueueFault Nat}
    (reconnects : Reconnects settings held acts outcome) :
    KeepsOne held acts outcome.toOption := by
  obtain ⟨reached⟩ := reconnects
  exact (closings held).trans (dials reached)

theorem hinders (hindered : Hinders settings queue held acts) : KeepsOne held acts held := by
  cases hindered with
  | missing => exact .nil
  | noSession => exact .cons rfl .nil
  | noLink => exact .cons rfl (.cons rfl (.cons rfl .nil))

theorem opens {outcome : Except QueueFault (Reader Nat Nat)}
    (opens : Opens settings queue held acts outcome kept) : KeepsOne held acts kept := by
  induction opens with
  | opened => exact .cons rfl (.cons rfl .nil)
  | again hindered reached _ ih => exact ((hinders hindered).trans (reconnects reached)).trans ih
  | failed hindered failed => exact (hinders hindered).trans (reconnects failed)

theorem follows {entry : Entry} (follows : Follows settings held entry) :
    KeepsOne held entry.acts entry.kept := by
  cases follows with
  | opened opened => exact opens opened
  | closed _ => exact closings held

theorem chained {entries : List Entry} (chained : Chained settings held entries) :
    ∃ kept, KeepsOne held (entries.flatMap Entry.acts) kept := by
  induction chained with
  | nil => exact ⟨_, .nil⟩
  | cons first _ ih =>
    obtain ⟨kept, keeps⟩ := ih
    exact ⟨kept, (follows first).trans keeps⟩

end KeepsOne

/-! ## All dealings -/

/-- The acts end with as many dials as are allowed, and all of them fail. -/
def GivesUp (settings : Settings.Broker) (acts : List Act) : Prop :=
  ∃ causes last, causes.length + 1 = settings.connectAttempts ∧
    failedDials settings.retryPolicy.pause causes ++ [.dialed (.error last)] <:+ acts

namespace Opens

variable {settings : Settings.Broker} {queue : String} {held kept : Option Nat} {acts : List Act}
  {outcome : Except QueueFault (Reader Nat Nat)}

theorem givesUp_of_error (opens : Opens settings queue held acts outcome kept)
    (failed : outcome.toOption = none) : GivesUp settings acts := by
  induction opens with
  | opened => cases failed
  | again _ _ _ ih =>
    obtain ⟨causes, last, all, isLast⟩ := ih failed
    exact ⟨causes, last, all, isLast.trans (List.suffix_append _ _)⟩
  | failed _ reconnects =>
    obtain ⟨dials⟩ := reconnects
    cases dials with
    | exhausted all =>
      exact ⟨_, _, all, (List.suffix_append _ _).trans (List.suffix_append _ _)⟩

theorem getLast?_of_ok (opens : Opens settings queue held acts outcome kept)
    (succeeded : outcome.toOption ≠ none) :
    ∃ session link, acts.getLast? = some (attaching settings queue session (.ok link)) := by
  induction opens with
  | opened => exact ⟨_, _, rfl⟩
  | again _ _ _ ih =>
    obtain ⟨session, link, isLast⟩ := ih succeeded
    exact ⟨session, link, by rw [List.getLast?_append, isLast, Option.some_or]⟩
  | failed _ _ => exact absurd rfl succeeded

/-- **An opening fails just when all the dials of a reconnect have failed**, and then these are its
last acts. -/
theorem isError_iff (opens : Opens settings queue held acts outcome kept) :
    outcome.toOption = none ↔ GivesUp settings acts := by
  refine ⟨opens.givesUp_of_error, fun ⟨causes, last, _, first, same⟩ => ?_⟩
  by_cases failed : outcome.toOption = none
  · exact failed
  · obtain ⟨session, link, isLast⟩ := opens.getLast?_of_ok failed
    rw [← same, ← List.append_assoc, List.getLast?_concat] at isLast
    cases isLast

end Opens

theorem Chained.exists_follows {settings : Settings.Broker} {held : Option Nat}
    {entries : List Entry} {entry : Entry} (chained : Chained settings held entries)
    (member : entry ∈ entries) : ∃ before, Follows settings before entry := by
  induction chained with
  | nil => cases member
  | cons follows _ ih =>
    obtain rfl | member := List.mem_cons.1 member
    · exact ⟨_, follows⟩
    · exact ih member

/-- A first dial that succeeds holds a connection. -/
theorem Dealings.start_of_ok {settings : Settings.Broker} {script : Script}
    (connected : (start settings script).1 = .ok ()) : 1 ≤ settings.connectAttempts ∧
      ∃ acts connection after, (start settings script).2 = ⟨⟨settings, some connection⟩, after⟩ ∧
        after.acts = script.acts ++ acts ∧ Dials settings acts (.ok connection) := by
  obtain zero | attempts := Nat.eq_zero_or_pos settings.connectAttempts
  · obtain ⟨address, username, password, filters, allowed, pause⟩ := settings
    cases zero
    cases connected
  · refine ⟨attempts, ?_⟩
    obtain ⟨acts, outcome, after, ran, records, reconnects⟩ :=
      Client.run_reconnect ⟨settings, none⟩ script attempts
    rw [start, Client.connect, ran] at connected ⊢
    cases outcome with
    | error fault => cases connected
    | ok connection =>
      obtain ⟨dials⟩ := reconnects
      exact ⟨_, connection, after, rfl, records.acts, dials⟩

/-- **All readers are served over one connection.** After a first dial that succeeded, every opening
has an outcome, which more tries do not change, and the calls have the form of `Follows`: an opening
goes on over hindrances, with one reconnect after each, until a session and its link succeed or all
dials of a reconnect fail. Whatever fails, there are never two connections open. -/
theorem served_over_one_connection (settings : Settings.Broker)
    (dials sessions links closings : List (Option String)) (calls : List Call) (more : Nat)
    (connected : (Dealings.start settings (.ofFailures dials sessions links closings)).1 = .ok ()) :
    let dealings := (Dealings.start settings (.ofFailures dials sessions links closings)).2
    let history := dealings.history more calls
    history = dealings.history 0 calls ∧ history.map Entry.call = calls ∧
    (∃ connection, Dials settings dealings.script.acts (.ok connection) ∧
      Chained settings (some connection) history) ∧
    (∀ entry ∈ history, ∀ outcome, entry.reply = .opened (some outcome) →
      (outcome.toOption = none ↔ GivesUp settings entry.acts)) ∧
    ∀ acts, acts <+: dealings.script.acts ++ history.flatMap Entry.acts →
      (openAfter acts).length ≤ 1 := by
  obtain ⟨attempts, begun, connection, after, isStart, recorded, dials⟩ :=
    Dealings.start_of_ok connected
  rw [isStart]
  intro dealings history
  have isBegun : dealings.script.acts = begun := recorded
  obtain ⟨unchanged, named, chained⟩ :=
    Dealings.chained_history more calls dealings attempts
  refine ⟨unchanged, named, ⟨connection, isBegun ▸ dials, chained⟩, ?_, ?_⟩
  · intro entry member outcome replied
    obtain ⟨before, follows⟩ := chained.exists_follows member
    cases follows with
    | opened opens =>
      cases replied
      exact opens.isError_iff
    | closed _ => cases replied
  · intro acts isFirst
    obtain ⟨kept, keeps⟩ := KeepsOne.chained chained
    rw [isBegun] at isFirst
    exact ((KeepsOne.dials dials).trans keeps).length_le_one isFirst

/-- Settings that allow two dials, ten seconds apart. -/
def frailSettings : Settings.Broker := ⟨"amqp://broker", "user", "secret", false, 2, 10⟩

/-- After the first dial, the second session, three dials and the first closing fail. -/
def outage : Script :=
  .ofFailures [none, some "refused", some "refused", some "refused"] [none, some "lost"] []
    [some "broken"]

/-- What is asked for during the outage. -/
def outageCalls : List Call := [.openReader "a", .openReader "b", .openReader "b", .close]

theorem outage_connected : (Dealings.start frailSettings outage).1 = .ok () := rfl

/-- The second opening gives up, and the third one dials anew. -/
theorem served_over_one_connection_outage :
    let dealings := (Dealings.start frailSettings outage).2
    let history := dealings.history 3 outageCalls
    history = dealings.history 0 outageCalls ∧ history.map Entry.call = outageCalls ∧
    (∃ connection, Dials frailSettings dealings.script.acts (.ok connection) ∧
      Chained frailSettings (some connection) history) ∧
    (∀ entry ∈ history, ∀ outcome, entry.reply = .opened (some outcome) →
      (outcome.toOption = none ↔ GivesUp frailSettings entry.acts)) ∧
    ∀ acts, acts <+: dealings.script.acts ++ history.flatMap Entry.acts →
      (openAfter acts).length ≤ 1 :=
  served_over_one_connection frailSettings _ _ _ _ outageCalls 3 outage_connected

example : ((Dealings.start frailSettings outage).2.history 0 outageCalls).map Entry.kept =
    [some 0, none, some 4, none] := by decide +kernel

end Turnstile.Amqp
