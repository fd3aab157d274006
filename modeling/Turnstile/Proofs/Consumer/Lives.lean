import Turnstile.Proofs.Consumer.Run

/-!
# The life of a message

A message that a loop receives is inspected, and discarded or dispatched once an admission has come
for it; only then is it acknowledged. If the token is cancelled during the inspection or the wait
for the admission, the message is left as it is and the loop ends. These are the **lives** of a
message. While it is on its way it has followed the **course** of the stage that the loop is in.

In every run, what happens after a message is received begins with exactly one of its lives, or
is its course so far, and everything that is dispatched or acknowledged is so on such a course
(`Loop.one_life_per_message`).
-/

set_option autoImplicit false

namespace Turnstile.Consumer

variable {ρ μ : Type}

/-! ## Courses and lives -/

/-- What has happened since a message was received, by the stage that the loop is in. -/
inductive Course (message : μ) : Stage ρ μ → List (Occurrence ρ μ) → Prop where
  | inspecting (reader : ρ) :
    Course message (.inspecting reader message) [.called (.inspect message)]
  | awaiting (reader : ρ) (work : Work) :
    Course message (.awaiting reader message work)
      [.called (.inspect message), .took (.inspected (.dispatch work)), .called .wait]
  | dispatching (reader : ρ) (work : Work) :
    Course message (.dispatching reader message work)
      [.called (.inspect message), .took (.inspected (.dispatch work)), .called .wait,
        .took .admitted, .called (.dispatch work)]
  | discarding (reader : ρ) :
    Course message (.acknowledging reader message)
      [.called (.inspect message), .took (.inspected .discard), .called (.acknowledge message)]
  | dispatched (reader : ρ) (work : Work) :
    Course message (.acknowledging reader message)
      [.called (.inspect message), .took (.inspected (.dispatch work)), .called .wait,
        .took .admitted, .called (.dispatch work), .took .dispatched,
        .called (.acknowledge message)]

/-- How it goes with a message. -/
inductive Life where
  | discarded
  | dispatched (work : Work)
  /-- The loop is cancelled during the inspection. -/
  | leftUninspected
  /-- The loop is cancelled during the wait for an admission. -/
  | leftUnadmitted (work : Work)
deriving DecidableEq

namespace Life

/-- Whether the loop goes on after this life. -/
def isSettled : Life → Bool
  | discarded => true
  | dispatched _ => true
  | leftUninspected => false
  | leftUnadmitted _ => false

/-- What happens to a message after it is received. -/
def events (message : μ) : Life → List (Occurrence ρ μ)
  | discarded =>
    [.called (.inspect message), .took (.inspected .discard), .called (.acknowledge message),
      .took .acknowledged]
  | dispatched work =>
    [.called (.inspect message), .took (.inspected (.dispatch work)), .called .wait,
      .took .admitted, .called (.dispatch work), .took .dispatched,
      .called (.acknowledge message), .took .acknowledged]
  | leftUninspected => [.called (.inspect message), .took .cancelled]
  | leftUnadmitted work =>
    [.called (.inspect message), .took (.inspected (.dispatch work)), .called .wait,
      .took .cancelled]

/-- No life begins with another one. -/
theorem eq_of_prefixes {message : μ} {first second : Life} {trace : List (Occurrence ρ μ)}
    (here : first.events message <+: trace) (there : second.events message <+: trace) :
    first = second := by
  rcases List.prefix_or_prefix_of_prefix here there with shorter | shorter <;>
    cases first <;> cases second <;> simp_all [events, List.cons_prefix_cons]

end Life

/-- What a loop does that is cancelled with a message in hand: it closes its reader and ends. -/
inductive Departure : Stage ρ μ → List (Occurrence ρ μ) → Prop where
  | closing (reader : ρ) : Departure (.closing reader false) [.called (.close reader)]
  | closed (reader : ρ) (isCancelled : Bool) :
    Departure (.exited none) [.called (.close reader), .took (.closed isCancelled)]

/-- What has happened since a message was received is a life of it with all that came later. After
a life that is not settled the loop departs. -/
def Life.IsLed (life : Life) (message : μ) (stage : Stage ρ μ) (after : List (Occurrence ρ μ)) :
    Prop :=
  ∃ rest, after = life.events message ++ rest ∧ (life.isSettled ∨ Departure stage rest)

namespace Course

variable {message : μ} {stage later : Stage ρ μ} {input : Input ρ μ}
  {course : List (Occurrence ρ μ)}

/-- A message that comes in has its course before it. -/
theorem of_received (move : Move stage (.received (.ok message)) later) :
    Course message later (later.call?.map .called).toList := by
  cases move with
  | received reader => exact .inspecting reader

/-- The next move leads further on the course, or it ends the life of the message. -/
theorem step (on : Course message stage course) (move : Move stage input later) :
    Course message later (course ++ later.entry input) ∨
    (later.message? = none ∧
      ∃ life : Life, life.IsLed message later (course ++ later.entry input)) := by
  cases on with
  | inspecting reader =>
    cases move with
    | discarded => exact .inl (.discarding reader)
    | wanted _ _ work => exact .inl (.awaiting reader work)
    | leaveInspecting => exact .inr ⟨rfl, .leftUninspected, _, rfl, .inr (.closing reader)⟩
  | awaiting reader work =>
    cases move with
    | admitted => exact .inl (.dispatching reader work)
    | leaveAwaiting => exact .inr ⟨rfl, .leftUnadmitted work, _, rfl, .inr (.closing reader)⟩
  | dispatching reader work =>
    cases move with
    | dispatched => exact .inl (.dispatched reader work)
  | discarding reader =>
    cases move with
    | acknowledged => exact .inr ⟨rfl, .discarded, _, rfl, .inl rfl⟩
  | dispatched reader work =>
    cases move with
    | acknowledged => exact .inr ⟨rfl, .dispatched work, _, rfl, .inl rfl⟩

end Course

theorem Departure.step {stage later : Stage ρ μ} {input : Input ρ μ}
    {rest : List (Occurrence ρ μ)} (departure : Departure stage rest)
    (move : Move stage input later) : Departure later (rest ++ later.entry input) := by
  cases departure with
  | closing reader =>
    cases move with
    | closed _ _ isCancelled => exact .closed reader isCancelled
  | closed reader isCancelled => cases move

theorem Life.IsLed.step {life : Life} {message : μ} {stage later : Stage ρ μ} {input : Input ρ μ}
    {after : List (Occurrence ρ μ)} (led : life.IsLed message stage after)
    (move : Move stage input later) : life.IsLed message later (after ++ later.entry input) := by
  obtain ⟨rest, rfl, goesOn⟩ := led
  refine ⟨rest ++ later.entry input, List.append_assoc _ _ _, ?_⟩
  exact goesOn.imp_right fun departure => departure.step move

theorem Life.IsLed.eq {first second : Life} {message : μ} {stage : Stage ρ μ}
    {after : List (Occurrence ρ μ)} (here : first.IsLed message stage after)
    (there : second.IsLed message stage after) : first = second := by
  obtain ⟨rest, rfl, _⟩ := here
  obtain ⟨rest', same, _⟩ := there
  exact eq_of_prefixes (List.prefix_append _ _) ⟨rest', same.symm⟩

/-! ## All messages of a run -/

theorem Stage.call?_eq_acknowledge {stage : Stage ρ μ} {message : μ}
    (called : stage.call? = some (.acknowledge message)) :
    ∃ reader, stage = .acknowledging reader message := by
  cases stage <;> simp_all [call?]

theorem Stage.call?_eq_dispatch {stage : Stage ρ μ} {work : Work}
    (called : stage.call? = some (.dispatch work)) :
    ∃ reader message, stage = .dispatching reader message work := by
  cases stage <;> simp_all [call?]

@[simp] theorem Stage.message?_begin (isCancelled : Bool) :
    (Stage.begin isCancelled : Stage ρ μ).message? = none := by
  cases isCancelled <;> rfl

/-- A message in hand comes in or was there before. -/
theorem Move.received_or_message?_eq {stage later : Stage ρ μ} {input : Input ρ μ} {message : μ}
    (move : Move stage input later) (inHand : later.message? = some message) :
    input = .received (.ok message) ∨ stage.message? = some message := by
  cases move with
  | began => simp at inHand
  | closed => simp at inHand
  | received =>
    cases inHand
    exact .inl rfl
  | discarded => exact .inr inHand
  | wanted => exact .inr inHand
  | admitted => exact .inr inHand
  | dispatched => exact .inr inHand
  | _ => cases inHand

/-- The message in hand, if there is one, has been received, and has been on its course since. -/
def OnCourse (stage : Stage ρ μ) (trace : List (Occurrence ρ μ)) : Prop :=
  ∀ message, stage.message? = some message → ∃ before course,
    trace = before ++ .took (.received (.ok message)) :: course ∧ Course message stage course

namespace OnCourse

variable {stage later : Stage ρ μ} {input : Input ρ μ} {trace : List (Occurrence ρ μ)}

theorem start : OnCourse (.idle : Stage ρ μ) [] := fun _ inHand => by cases inHand

theorem step (onCourse : OnCourse stage trace) (move : Move stage input later) :
    OnCourse later (trace ++ later.entry input) := by
  intro message inHand
  rcases move.received_or_message?_eq inHand with rfl | before
  · exact ⟨trace, _, rfl, .of_received move⟩
  · obtain ⟨earlier, course, rfl, on⟩ := onCourse message before
    rcases on.step move with goesOn | ⟨given, _⟩
    · exact ⟨earlier, course ++ later.entry input, by simp, goesOn⟩
    · rw [inHand] at given
      cases given

/-- Where a call about the message in hand is made, the course up to that call is complete. -/
theorem of_called {isCancelled : Bool} {actions : List (Action ρ μ)}
    {before after : List (Occurrence ρ μ)} {call : Call ρ μ}
    (split : (Loop.run isCancelled actions).trace = before ++ .called call :: after) :
    ∃ stage, stage.call? = some call ∧ OnCourse stage (before ++ [.called call]) :=
  Loop.exists_of_called start step split

end OnCourse

/-- Every message that was received is on its course or has led a life. -/
def Accounted (stage : Stage ρ μ) (trace : List (Occurrence ρ μ)) : Prop :=
  ∀ before message after, trace = before ++ .took (.received (.ok message)) :: after →
    (∃ life : Life, life.IsLed message stage after) ∨ Course message stage after

namespace Accounted

variable {stage later : Stage ρ μ} {input : Input ρ μ} {trace : List (Occurrence ρ μ)}

theorem start : Accounted (.idle : Stage ρ μ) [] := fun _ _ _ split => by simp at split

theorem step (accounted : Accounted stage trace) (move : Move stage input later) :
    Accounted later (trace ++ later.entry input) := by
  intro before message after split
  rcases split_append split with ⟨middle, old, rfl⟩ | ⟨middle, _, new⟩
  · rcases accounted before message middle old with ⟨life, led⟩ | on
    · exact .inl ⟨life, led.step move⟩
    · exact (on.step move).symm.imp_left And.right
  · rcases Stage.split_entry new with ⟨_, received, rfl⟩ | ⟨_, _, _, isCall, _⟩
    · cases received
      exact .inr (.of_received move)
    · cases isCall

end Accounted

/-- Whether a message, or none, is left unacknowledged in a stage: the one in hand, before it is
acknowledged, and possibly one when the loop departs. -/
def Stage.Leaves (left : Option μ) : Stage ρ μ → Prop
  | inspecting _ message => left = some message
  | awaiting _ message _ => left = some message
  | dispatching _ message _ => left = some message
  | closing _ false => True
  | exited none => True
  | _ => left = none

/-- What was left before a move and what comes in is what is acknowledged and what is left. -/
theorem Move.exists_left {stage later : Stage ρ μ} {input : Input ρ μ} {left : Option μ}
    (move : Move stage input later) (before : stage.Leaves left) :
    ∃ left' : Option μ, later.Leaves left' ∧
      left.toList ++ (later.entry input).filterMap (·.received?) =
        (later.entry input).filterMap (·.acknowledged?) ++ left'.toList := by
  cases move with
  | began isCancelled =>
    obtain rfl : left = none := before
    cases isCancelled
    · exact ⟨none, rfl, rfl⟩
    · exact ⟨none, trivial, rfl⟩
  | received reader message =>
    obtain rfl : left = none := before
    exact ⟨some message, rfl, rfl⟩
  | discarded reader message =>
    obtain rfl : left = some message := before
    exact ⟨none, rfl, rfl⟩
  | dispatched reader message =>
    obtain rfl : left = some message := before
    exact ⟨none, rfl, rfl⟩
  | leaveOpening => exact ⟨left, trivial, List.append_nil _⟩
  | leaveReading => exact ⟨left, trivial, List.append_nil _⟩
  | leaveInspecting => exact ⟨left, trivial, List.append_nil _⟩
  | leaveAwaiting => exact ⟨left, trivial, List.append_nil _⟩
  | closed reader resumes isCancelled =>
    cases resumes
    · exact ⟨left, trivial, List.append_nil _⟩
    · obtain rfl : left = none := before
      cases isCancelled
      · exact ⟨none, rfl, rfl⟩
      · exact ⟨none, trivial, rfl⟩
  | _ => exact ⟨left, before, List.append_nil _⟩

/-- What was received has been acknowledged, in the same order, but for what is left. -/
def Leaves (stage : Stage ρ μ) (trace : List (Occurrence ρ μ)) : Prop :=
  ∃ left : Option μ, stage.Leaves left ∧
    trace.filterMap (·.received?) = trace.filterMap (·.acknowledged?) ++ left.toList

theorem Leaves.step {stage later : Stage ρ μ} {input : Input ρ μ} {trace : List (Occurrence ρ μ)}
    (leaves : Leaves stage trace) (move : Move stage input later) :
    Leaves later (trace ++ later.entry input) := by
  obtain ⟨left, before, counts⟩ := leaves
  obtain ⟨left', after, entry⟩ := move.exists_left before
  refine ⟨left', after, ?_⟩
  rw [List.filterMap_append, List.filterMap_append, counts, List.append_assoc, entry,
    List.append_assoc]

namespace Loop

/-- **Every message leads exactly one life.** In every run, whatever happens after a message is
received begins with exactly one of its lives, and the loop departs after one that is not settled;
or the message is still on its course. Whatever is acknowledged or dispatched is so as the last
step on the course of a message. Messages are acknowledged in the order in which they were
received, and at most one has not been acknowledged. -/
theorem one_life_per_message (isCancelled : Bool) (actions : List (Action ρ μ)) :
    let loop := run isCancelled actions
    (∀ before message after, loop.trace = before ++ .took (.received (.ok message)) :: after →
      (∃! life : Life, life.IsLed message loop.stage after) ∨
        Course message loop.stage after) ∧
    (∀ before message after, loop.trace = before ++ .called (.acknowledge message) :: after →
      ∃ earlier course reader, before ++ [.called (.acknowledge message)] =
        earlier ++ .took (.received (.ok message)) :: course ∧
        Course message (.acknowledging reader message) course) ∧
    (∀ before work after, loop.trace = before ++ .called (.dispatch work) :: after →
      ∃ earlier message course reader, before ++ [.called (.dispatch work)] =
        earlier ++ .took (.received (.ok message)) :: course ∧
        Course message (.dispatching reader message work) course) ∧
    ∃ left : Option μ, loop.trace.filterMap (·.received?) =
      loop.trace.filterMap (·.acknowledged?) ++ left.toList := by
  intro loop
  refine ⟨fun before message after split => ?_, fun before message after split => ?_,
    fun before work after split => ?_, ?_⟩
  · have accounted : Accounted loop.stage loop.trace :=
      run_induction .start .step isCancelled actions
    rcases accounted before message after split with ⟨life, led⟩ | on
    · exact .inl ⟨life, led, fun other ledToo => ledToo.eq led⟩
    · exact .inr on
  · obtain ⟨stage, called, onCourse⟩ := OnCourse.of_called split
    obtain ⟨reader, rfl⟩ := Stage.call?_eq_acknowledge called
    obtain ⟨earlier, course, complete, on⟩ := onCourse message rfl
    exact ⟨earlier, course, reader, complete, on⟩
  · obtain ⟨stage, called, onCourse⟩ := OnCourse.of_called split
    obtain ⟨reader, message, rfl⟩ := Stage.call?_eq_dispatch called
    obtain ⟨earlier, course, complete, on⟩ := onCourse message rfl
    exact ⟨earlier, message, course, reader, complete, on⟩
  · have leaves : Leaves loop.stage loop.trace :=
      run_induction ⟨none, rfl, rfl⟩ .step isCancelled actions
    obtain ⟨left, _, counts⟩ := leaves
    exact ⟨left, counts⟩

/-- A run with three messages: the first is discarded, the second is dispatched although the token
is cancelled while it waits, and the third is left. -/
def threeMessages (work : Work) : List (Action Unit String) :=
  [.take (.began false), .take (.opened (.ok ())), .take (.received (.ok "a")),
    .take (.inspected .discard), .take .acknowledged, .take (.received (.ok "b")),
    .take (.inspected (.dispatch work)), .cancel, .take .admitted, .take .dispatched,
    .take .acknowledged, .take (.received (.ok "c")), .take .cancelled, .take (.closed true)]

theorem third_message_is_left :
    let work : Work := .worker ⟨"e", by decide +kernel⟩
    let loop := run false (threeMessages work)
    (∃ before after, loop.trace = before ++ .took (.received (.ok "c")) :: after ∧
      (∃! life : Life, life.IsLed "c" loop.stage after)) ∧
    ∃ earlier message course reader,
      loop.trace.take 16 = earlier ++ .took (.received (.ok message)) :: course ∧
      Course message (.dispatching reader message work) course := by
  intro work loop
  obtain ⟨lives, _, dispatches, _⟩ := one_life_per_message false (threeMessages work)
  have third : loop.trace =
      loop.trace.take 20 ++ .took (.received (.ok "c")) :: loop.trace.drop 21 := rfl
  have started : loop.trace =
      loop.trace.take 15 ++ .called (.dispatch work) :: loop.trace.drop 16 := rfl
  refine ⟨⟨_, _, third, ?_⟩, dispatches _ work _ started⟩
  rcases lives _ "c" _ third with led | on
  · exact led
  · cases on

end Loop

end Turnstile.Consumer
