import Turnstile.Amqp.Script
import Turnstile.Proofs.Retry

/-!
# Readers over one connection

A client opens readers and is closed again, in any order, against a peer whose dials, sessions,
links and closings fail as a script says. What it does is a list of acts, and these have a fixed
form: a reconnect closes what is held and dials until a dial succeeds or as many as the settings
allow have failed (`Dials`, `Reconnects`); an opening is a number of hindrances with a reconnect
after each, and then either a session with its link or a reconnect that fails (`Opens`).

From this form everything follows that one would ask of a client (`served_over_one_connection`): an
opening ends, however often it is hindered; it fails only when the dials of one reconnect have all
failed, and then nothing is held; and no two connections are ever open at once.
-/

set_option autoImplicit false

namespace Turnstile.Amqp

/-! ## What a client does -/

/-- Dials that fail with these causes, and a pause after each. -/
def failedDials (milliseconds : Nat) (causes : List String) : List Act :=
  causes.flatMap fun cause => [.dialed (.error cause), .paused milliseconds]

/-- The dials of a reconnect: the first that succeeds is the last one, and if all that are allowed
fail, the fault tells the cause of the last. -/
inductive Dials (settings : Settings.Broker) : List Act → Except QueueFault Nat → Prop
  | reached {causes : List String} {connection : Nat}
      (few : causes.length < settings.connectAttempts) :
    Dials settings
      (failedDials settings.retryPolicy.pause causes ++ [.dialed (.ok connection)])
      (.ok connection)
  | exhausted {causes : List String} {last : String}
      (all : causes.length + 1 = settings.connectAttempts) :
    Dials settings
      (failedDials settings.retryPolicy.pause causes ++ [.dialed (.error last)])
      (.error (.exhausted settings.connectAttempts (QueueFault.connect last).message))

/-- Closing what is held. -/
def closings (held : Option Nat) : List Act := (held.map .closed).toList

/-- A reconnect: what is held is closed, and then the peer is dialed. -/
inductive Reconnects (settings : Settings.Broker) (held : Option Nat) :
    List Act → Except QueueFault Nat → Prop
  | intro {acts : List Act} {outcome : Except QueueFault Nat}
      (dials : Dials settings acts outcome) :
    Reconnects settings held (closings held ++ acts) outcome

/-- The name and the source with which the link of a queue is attached. -/
def attaching (settings : Settings.Broker) (queue : String) (session : Nat) :
    Except String Nat → Act :=
  .attached session (linkName queue) (.ofQueue settings.usesSessionFilters queue)

/-- What keeps a reader from being opened: there is no connection, or no session can be begun on
it, or no link can be attached to the session, which is ended then. -/
inductive Hinders (settings : Settings.Broker) (queue : String) : Option Nat → List Act → Prop
  | missing : Hinders settings queue none []
  | noSession {connection : Nat} {cause : String} :
    Hinders settings queue (some connection) [.began connection (.error cause)]
  | noLink {connection session : Nat} {cause : String} :
    Hinders settings queue (some connection)
      [.began connection (.ok session), attaching settings queue session (.error cause),
        .ended session]

/-- An opening, from the connection held before to the one held after: a reader is opened where a
session and its link succeed, and every hindrance before that is followed by one reconnect. It fails
where such a reconnect does. -/
inductive Opens (settings : Settings.Broker) (queue : String) :
    Option Nat → List Act → Except QueueFault (Reader Nat Nat) → Option Nat → Prop
  | opened {connection session link : Nat} :
    Opens settings queue (some connection)
      [.began connection (.ok session), attaching settings queue session (.ok link)]
      (.ok ⟨queue, some session, some link⟩) (some connection)
  | again {held kept : Option Nat} {connection : Nat} {hindrance dials acts : List Act}
      {outcome : Except QueueFault (Reader Nat Nat)}
      (hindered : Hinders settings queue held hindrance)
      (reconnects : Reconnects settings held dials (.ok connection))
      (opens : Opens settings queue (some connection) acts outcome kept) :
    Opens settings queue held (hindrance ++ dials ++ acts) outcome kept
  | failed {held : Option Nat} {hindrance dials : List Act} {fault : QueueFault}
      (hindered : Hinders settings queue held hindrance)
      (reconnects : Reconnects settings held dials (.error fault)) :
    Opens settings queue held (hindrance ++ dials) (.error fault) none

/-! ## Reconnects -/

namespace Script

/-- How many sessions and links are still prepared. -/
def reserve (script : Script) : Nat := script.sessions.length + script.links.length

/-- The acts have been recorded, and no session and no link was taken. -/
structure Records (before : Script) (acts : List Act) (after : Script) : Prop where
  acts : after.acts = before.acts ++ acts
  reserve : after.reserve = before.reserve

theorem Records.trans {first second third : Script} {acts later : List Act}
    (records : first.Records acts second) (next : second.Records later third) :
    first.Records (acts ++ later) third :=
  ⟨by rw [next.acts, records.acts, List.append_assoc], next.reserve.trans records.reserve⟩

/-- An outcome is a success, or a failure that was prepared. -/
theorem outcome_cases {α : Type} (failures : List (Option String)) (made : α) :
    outcome failures made = .ok made ∨
      ∃ cause, outcome failures made = .error cause ∧ failures.tail.length < failures.length := by
  rcases failures with _ | ⟨_ | cause, failures⟩
  · exact .inl rfl
  · exact .inl rfl
  · exact .inr ⟨cause, rfl, Nat.lt_succ_self _⟩

/-- Beginning a session takes one that is prepared, if it fails. -/
theorem run_beginSession (connection : Nat) (script : Script) : ∃ outcome after,
    (peer.beginSession connection).run script = (outcome, after) ∧
      after.acts = script.acts ++ [.began connection outcome] ∧
      after.reserve ≤ script.reserve ∧
      (outcome.toOption = none → after.reserve < script.reserve) := by
  refine ⟨_, _, rfl, rfl, ?_, fun failed => ?_⟩
  · exact Nat.add_le_add_right (List.tail_sublist _).length_le _
  · obtain succeeded | ⟨cause, _, prepared⟩ := outcome_cases script.sessions script.begun
    · rw [succeeded] at failed
      cases failed
    · exact Nat.add_lt_add_right prepared _

/-- Attaching a link takes one that is prepared, if it fails. -/
theorem run_attach (session : Nat) (link : String) (source : LinkSource) (script : Script) :
    ∃ outcome after, (peer.attach session link source).run script = (outcome, after) ∧
      after.acts = script.acts ++ [.attached session link source outcome] ∧
      (outcome.toOption = none → after.reserve < script.reserve) := by
  refine ⟨_, _, rfl, rfl, fun failed => ?_⟩
  obtain succeeded | ⟨cause, _, prepared⟩ := outcome_cases script.links session
  · rw [succeeded] at failed
    cases failed
  · exact Nat.add_lt_add_left prepared _

theorem run_dial (settings : Settings.Broker) (script : Script) :
    ∃ outcome after, (peer.dial settings).run script = (outcome, after) ∧
      script.Records [.dialed outcome] after := ⟨_, _, rfl, rfl, rfl⟩

/-- The attempts that are left are dials with pauses in between. -/
theorem exists_dials (policy : Retry.Policy) (settings : Settings.Broker) (left : Nat)
    (script : Script) : ∃ (causes : List String) (outcome : Except String Nat) (after : Script),
    (Retry.attemptsLeft policy "connect to broker" peer.pause (peer.dial settings) (left + 1)).run
      script = (outcome.mapError (.exhausted "connect to broker" policy.attempts), after) ∧
      script.Records (failedDials policy.pause causes ++ [.dialed outcome]) after ∧
      match outcome with
      | .ok _ => causes.length ≤ left
      | .error _ => causes.length = left := by
  induction left generalizing script with
  | zero =>
    obtain ⟨outcome, after, called, records⟩ := run_dial settings script
    cases outcome with
    | ok connection =>
      exact ⟨[], _, after, Retry.attemptsLeft_of_ok called 0, records, Nat.le_refl 0⟩
    | error last => exact ⟨[], _, after, Retry.attemptsLeft_one_of_error called, records, rfl⟩
  | succ left ih =>
    obtain ⟨outcome, dialed, called, records⟩ := run_dial settings script
    cases outcome with
    | ok connection =>
      exact ⟨[], _, dialed, Retry.attemptsLeft_of_ok called (left + 1), records, Nat.zero_le _⟩
    | error cause =>
      have paused : dialed.Records [.paused policy.pause]
          ((peer.pause policy.pause).run dialed).2 := ⟨rfl, rfl⟩
      obtain ⟨causes, outcome, after, ran, later, count⟩ :=
        ih ((peer.pause policy.pause).run dialed).2
      refine ⟨cause :: causes, outcome, after, ?_, (records.trans paused).trans later, ?_⟩
      · rw [Retry.attemptsLeft_of_error called, ran]
      · cases outcome with
        | ok connection => exact Nat.succ_le_succ count
        | error last => exact congrArg Nat.succ count

end Script

namespace Client

/-- A client when the dials of a reconnect have come to an end, with what it reports. -/
def dialed {κ : Type} (client : Client κ) :
    Except (Retry.Failure String) κ → Except QueueFault Unit × Client κ
  | .ok connection => (.ok (), { client with held := some connection })
  | .error failure => (.error (dialFault failure), { client with held := none })

/-- Whatever the peer does, a reconnect is its dials after what was held is closed. -/
theorem run_reconnect_of_dialed {τ κ σ ρ : Type} (peer : Peer (StateM τ) κ σ ρ)
    (client : Client κ) {state after : τ} {outcome : Except (Retry.Failure String) κ}
    (ran : (Retry.attempt client.settings.retryPolicy "connect to broker" peer.pause
      (peer.dial client.settings)).run ((client.release peer).run state).2 = (outcome, after)) :
    (client.reconnect peer).run state = (client.dialed outcome, after) := by
  obtain ⟨settings, held⟩ := client
  let client : Client κ := ⟨settings, held⟩
  have released : ∃ result, (client.release peer).run state =
      ((result, ⟨settings, none⟩), ((client.release peer).run state).2) := by
    cases held with
    | none => exact ⟨_, rfl⟩
    | some connection => exact ⟨_, rfl⟩
  obtain ⟨result, closed⟩ := released
  rw [reconnect, run_bind_of_run closed, run_bind_of_run ran]
  cases outcome with
  | ok connection => rfl
  | error failure => rfl

/-- What is held is closed, and then nothing is held. -/
theorem run_release (client : Client Nat) (script : Script) : ∃ result after,
    (client.release Script.peer).run script = ((result, { client with held := none }), after) ∧
      script.Records (closings client.held) after ∧ (client.held = none → result = .ok ()) := by
  obtain ⟨settings, held⟩ := client
  cases held with
  | none => exact ⟨.ok (), script, rfl, ⟨(List.append_nil _).symm, rfl⟩, fun _ => rfl⟩
  | some connection => exact ⟨_, _, rfl, ⟨rfl, rfl⟩, nofun⟩

/-- A reconnect closes what is held, and then holds the connection of its last dial, if any. -/
theorem run_reconnect (client : Client Nat) (script : Script)
    (attempts : 1 ≤ client.settings.connectAttempts) : ∃ acts outcome after,
    (client.reconnect Script.peer).run script =
      ((outcome.map fun _ => (), { client with held := outcome.toOption }), after) ∧
      script.Records acts after ∧ Reconnects client.settings client.held acts outcome := by
  obtain ⟨left, all⟩ := Nat.exists_eq_add_of_le' attempts
  obtain ⟨result, released, closed, records, _⟩ := client.run_release script
  obtain rfl : ((client.release Script.peer).run script).2 = released := congrArg Prod.snd closed
  obtain ⟨causes, outcome, after, dialed, later, count⟩ :=
    Script.exists_dials client.settings.retryPolicy client.settings left _
  rw [← all] at dialed
  rw [run_reconnect_of_dialed Script.peer client dialed]
  cases outcome with
  | ok connection =>
    exact ⟨_, .ok connection, after, rfl, records.trans later, .intro (.reached (by omega))⟩
  | error last =>
    exact ⟨_, .error _, after, rfl, records.trans later, .intro (.exhausted (by omega))⟩

/-! ## Openings -/

/-- How many tries suffice: one more than there are failures prepared, and one without a
connection. -/
def needed (client : Client Nat) (script : Script) : Nat :=
  script.reserve + (if client.held = none then 2 else 1)

theorem needed_le (client : Client Nat) (script : Script) :
    client.needed script ≤ script.sufficientTries := by
  unfold needed
  split
  · exact Nat.le_refl _
  · exact Nat.le_succ _

/-- A try opens a reader or meets a hindrance, and then one try fewer is needed. -/
theorem run_tryReader (client : Client Nat) (queue : String) (script : Script) :
    ∃ acts result after, (client.tryReader Script.peer queue).run script = (result, after) ∧
      after.acts = script.acts ++ acts ∧
      match result with
      | some reader => Opens client.settings queue client.held acts (.ok reader) client.held
      | none => Hinders client.settings queue client.held acts ∧
          after.reserve + 2 ≤ client.needed script := by
  obtain ⟨settings, held⟩ := client
  cases held with
  | none => exact ⟨[], none, script, rfl, (List.append_nil _).symm, .missing, Nat.le_refl _⟩
  | some connection =>
    obtain ⟨outcome, begun, began, acts, reserve, prepared⟩ :=
      Script.run_beginSession connection script
    rw [tryReader, run_bind_of_run began]
    cases outcome with
    | error cause =>
      exact ⟨_, none, begun, rfl, acts, .noSession, Nat.succ_le_succ (prepared rfl)⟩
    | ok session =>
      obtain ⟨outcome, linked, attached, later, prepared⟩ :=
        Script.run_attach session (linkName queue) (.ofQueue settings.usesSessionFilters queue)
          begun
      rw [acts, List.append_assoc] at later
      cases outcome with
      | ok link => exact ⟨_, some _, linked, run_bind_of_run attached, later, .opened⟩
      | error cause =>
        refine ⟨[.began connection (.ok session), attaching settings queue session (.error cause),
          .ended session], none, linked.record (.ended session), run_bind_of_run attached, ?_,
          .noLink, Nat.succ_le_succ (Nat.lt_of_lt_of_le (prepared rfl) reserve)⟩
        rw [Script.record, later, List.append_assoc]
        rfl

/-- With tries enough an opening has an outcome, and its acts are those of an opening. -/
theorem run_openReader (queue : String) {tries : Nat} (client : Client Nat) (script : Script)
    (attempts : 1 ≤ client.settings.connectAttempts) (enough : client.needed script ≤ tries) :
    ∃ acts outcome kept after, (openReader Script.peer queue tries client).run script =
      ((some outcome, { client with held := kept }), after) ∧
      after.acts = script.acts ++ acts ∧
      Opens client.settings queue client.held acts outcome kept := by
  -- A hindrance uses up a try, but leaves one fewer that is needed; a reconnect uses up none.
  induction tries generalizing client script with
  | zero =>
    unfold needed at enough
    split at enough <;> omega
  | succ tries ih =>
    obtain ⟨acts, result, tried, ran, recorded, met⟩ := client.run_tryReader queue script
    rw [openReader, run_bind_of_run ran]
    cases result with
    | some reader => exact ⟨acts, .ok reader, client.held, tried, rfl, recorded, met⟩
    | none =>
      obtain ⟨hindered, fewer⟩ := met
      obtain ⟨dials, outcome, dialed, ran, records, reconnects⟩ :=
        client.run_reconnect tried attempts
      cases outcome with
      | error fault =>
        refine ⟨_, .error fault, none, dialed, run_bind_of_run ran, ?_, .failed hindered reconnects⟩
        rw [records.acts, recorded, List.append_assoc]
      | ok connection =>
        have enough' : needed { client with held := some connection } dialed ≤ tries := by
          rw [← records.reserve] at fewer
          exact Nat.le_of_succ_le_succ (Nat.le_trans fewer enough)
        obtain ⟨later, outcome, kept, after, opened, recorded', opens⟩ :=
          ih { client with held := some connection } dialed attempts enough'
        refine ⟨_, outcome, kept, after, (run_bind_of_run ran).trans opened, ?_,
          .again hindered reconnects opens⟩
        rw [recorded', records.acts, recorded]
        simp only [List.append_assoc]

/-- More tries than were used up change nothing. -/
theorem run_openReader_of_more {σ κ τ ρ : Type} {peer : Peer (StateM σ) κ τ ρ} {queue : String}
    {tries : Nat} {client after : Client κ} {state later : σ}
    {outcome : Except QueueFault (Reader τ ρ)} (extra : Nat)
    (opened : (openReader peer queue tries client).run state = ((some outcome, after), later)) :
    (openReader peer queue (tries + extra) client).run state = ((some outcome, after), later) := by
  induction tries generalizing client state with
  | zero => cases opened
  | succ tries ih =>
    rw [Nat.add_right_comm]
    rcases ran : (client.tryReader peer queue).run state with ⟨result, tried⟩
    rw [openReader, run_bind_of_run ran] at opened ⊢
    cases result with
    | some reader => exact opened
    | none =>
      rcases ran : (client.reconnect peer).run tried with ⟨⟨_ | _, client⟩, dialed⟩
      · exact (run_bind_of_run ran).trans ((run_bind_of_run ran).symm.trans opened)
      · exact (run_bind_of_run ran).trans (ih ((run_bind_of_run ran).symm.trans opened))

end Client

end Turnstile.Amqp
