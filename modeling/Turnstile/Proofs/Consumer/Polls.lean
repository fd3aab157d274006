import Turnstile.Proofs.Admission.Anteroom
import Turnstile.Proofs.Consumer.Lives
import Turnstile.Proofs.Simulation.Scopes

/-!
# Polls of a consumer loop

A loop is a task, and a runtime **polls** it now and then; nothing else happens while it does. In a
poll the loop goes on from wait to wait. A wait that can be cancelled has two branches, what the
loop waits for and the cancellation of its token. They are polled in any order, and the first one
that is ready decides. A poll ends when no branch of the present wait is ready; or the runtime ends
it when the loop has just come to another wait, of which no branch has been polled then.

A loop whose token is cancelled need not see this at once. Wherever the other branch is polled first
and is ready, the loop goes on: it can take an admission that it was given and start work, and it
can read and inspect any number of messages. What it cannot do is wait for an admission that is
still to come. Offers are made between polls, and no poll leaves the loop in the line for admission
with its token cancelled. So it starts work once more at most, and asks for no other reader
(`PolledLoop.cancellation_is_final`).
-/

set_option autoImplicit false

namespace Turnstile.Consumer

open Simulation (World)

variable {ρ μ : Type}

/-- Whether an input is an admission. -/
def Input.isAdmission : Input ρ μ → Bool
  | admitted => true
  | _ => false

/-- What comes of polling a branch of the present wait. -/
inductive Branch (ρ μ : Type) where
  | ready (input : Input ρ μ)
  | pending

/-- A loop with the anteroom in which it waits for admissions, in a world of which only the scopes
matter here. -/
structure PolledLoop (ρ μ : Type) where
  world : World
  room : Anteroom
  loop : Loop ρ μ
  /-- The number under which the loop waits in the anteroom. -/
  place? : Option Nat

namespace PolledLoop

/-! ## Polls -/

/-- What can happen. -/
inductive Action (ρ μ : Type) where
  /-- A scope is cancelled, any one of the world. -/
  | cancel (target : Nat)
  /-- Something happens in the anteroom, by others. -/
  | attend (action : Anteroom.Action)
  /-- The loop is polled. The branches are polled one after the other. If the runtime ends the poll
  it does so after a last input. -/
  | poll (branches : List (Branch ρ μ)) (last? : Option (Input ρ μ))

/-- A loop at its start, in a scope of a world. -/
def start (scope : Nat) (world : World) : PolledLoop ρ μ :=
  ⟨world, .fresh, .start (world.isCancelled scope), none⟩

/-- Whether the loop finds an admission when it looks. -/
def isAdmitted (polled : PolledLoop ρ μ) : Bool :=
  match polled.place? with
  | some place => (polled.room.admission.look place).1 = .admitted
  | none => false

/-- The anteroom after a wait: the admission is taken up, or the place in the line is given up. -/
def leaveRoom (polled : PolledLoop ρ μ) (input : Input ρ μ) : Anteroom :=
  match polled.place? with
  | some place => polled.room.act (if input.isAdmission then .look place else .leave place)
  | none => polled.room

/-- The loop after an input; none if the input cannot come. An admission must be there. -/
def take? (polled : PolledLoop ρ μ) (input : Input ρ μ) : Option (PolledLoop ρ μ) :=
  match polled.loop.stage.next? input with
  | some stage =>
    if input.agrees polled.loop.isCancelled && (!input.isAdmission || polled.isAdmitted) then
      some { polled with
        room := polled.leaveRoom input, loop := polled.loop.enter input stage, place? := none }
    else none
  | none => none

/-- A wait for an admission is polled: if it has no place in the line yet, it takes one. -/
def queue (polled : PolledLoop ρ μ) : PolledLoop ρ μ :=
  match polled.loop.stage, polled.place? with
  | .awaiting _ _ _, none =>
    { polled with
      room := polled.room.act .enter
      place? := some (Anteroom.entered polled.room.record).length }
  | _, _ => polled

/-- A branch of the present wait is polled. What cannot be ready is passed over. -/
def pollBranch (polled : PolledLoop ρ μ) : Branch ρ μ → PolledLoop ρ μ
  | .ready input => (polled.take? input).getD polled
  | .pending => polled.queue

/-- The loop comes to rest: both branches of the present wait are polled. -/
def rest (polled : PolledLoop ρ μ) : PolledLoop ρ μ :=
  (polled.pollBranch .pending).pollBranch (.ready .cancelled)

/-- The loop after a poll. A last input ends it if it brings the loop to another wait. -/
def poll (polled : PolledLoop ρ μ) (branches : List (Branch ρ μ)) (last? : Option (Input ρ μ)) :
    PolledLoop ρ μ :=
  let later := branches.foldl pollBranch polled
  (last?.bind later.take?).getD later.rest

/-- The loop in a scope after an action. Others do not concern themselves with its place. -/
def act (scope : Nat) (polled : PolledLoop ρ μ) : Action ρ μ → PolledLoop ρ μ
  | .cancel target =>
    let world := polled.world.cancelScope target
    { polled with
      world, loop := if world.isCancelled scope then polled.loop.act .cancel else polled.loop }
  | .attend action =>
    if polled.place?.isSome ∧ action.waiter? = polled.place? then polled
    else { polled with room := polled.room.act action }
  | .poll branches last? => polled.poll branches last?

/-- The loop in a scope of a world after a list of actions. -/
def run (scope : Nat) (world : World) (actions : List (Action ρ μ)) : PolledLoop ρ μ :=
  actions.foldl (act scope) (start scope world)

theorem run_append (scope : Nat) (world : World) (earlier later : List (Action ρ μ)) :
    run scope world (earlier ++ later) = later.foldl (act scope) (run scope world earlier) :=
  List.foldl_append

theorem run_snoc (scope : Nat) (world : World) (earlier : List (Action ρ μ))
    (action : Action ρ μ) :
    run scope world (earlier ++ [action]) = (run scope world earlier).act scope action :=
  run_append scope world earlier [action]

variable {polled first middle later : PolledLoop ρ μ} {input : Input ρ μ}

theorem exists_of_take? (taken : polled.take? input = some later) :
    ∃ stage, polled.loop.stage.next? input = some stage ∧
      input.agrees polled.loop.isCancelled = true ∧
      (input.isAdmission = true → polled.isAdmitted = true) ∧
      later = { polled with
        room := polled.leaveRoom input
        loop := polled.loop.enter input stage
        place? := none } := by
  rw [take?] at taken
  split at taken
  case h_1 stage next =>
    split at taken
    case isTrue comes =>
      cases taken
      obtain ⟨agrees, admitted⟩ := Bool.and_eq_true_iff.1 comes
      refine ⟨stage, next, agrees, ?_, rfl⟩
      intro isAdmission
      simpa [isAdmission] using admitted
    case isFalse => cases taken
  case h_2 => cases taken

@[simp] theorem loop_queue (polled : PolledLoop ρ μ) : polled.queue.loop = polled.loop := by
  rw [queue]
  split <;> rfl

@[simp] theorem world_queue (polled : PolledLoop ρ μ) : polled.queue.world = polled.world := by
  rw [queue]
  split <;> rfl

section Induction

variable {relation : PolledLoop ρ μ → PolledLoop ρ μ → Prop}
  (refl : ∀ polled, relation polled polled)
  (trans : ∀ {first middle later}, relation first middle → relation middle later →
    relation first later)
  (queue : ∀ polled, relation polled polled.queue)
  (take : ∀ {polled input later}, polled.take? input = some later → relation polled later)

include refl queue take

theorem pollBranch_induction (polled : PolledLoop ρ μ) (branch : Branch ρ μ) :
    relation polled (polled.pollBranch branch) := by
  cases branch with
  | ready input =>
    rw [pollBranch]
    cases taken : polled.take? input with
    | none => exact refl polled
    | some later => exact take taken
  | pending => exact queue polled

include trans

theorem foldl_induction (polled : PolledLoop ρ μ) (branches : List (Branch ρ μ)) :
    relation polled (branches.foldl pollBranch polled) := by
  induction branches generalizing polled with
  | nil => exact refl polled
  | cons branch branches ih =>
    have step := pollBranch_induction refl queue take polled branch
    exact trans step (ih _)

/-- What holds from before to after each step of a poll, and can be put together, holds from before
to after a poll. -/
theorem poll_induction (polled : PolledLoop ρ μ) (branches : List (Branch ρ μ))
    (last? : Option (Input ρ μ)) : relation polled (polled.poll branches last?) := by
  have step := pollBranch_induction refl queue take
  apply trans (foldl_induction refl trans queue take polled branches)
  rw [poll]
  cases taken : last?.bind (branches.foldl pollBranch polled).take? with
  | none =>
    rw [Option.getD_none, rest]
    exact trans (step _ _) (step _ _)
  | some later =>
    obtain ⟨input, _, taken⟩ := Option.bind_eq_some_iff.1 taken
    exact take taken

end Induction

/-! ## A polled loop is a loop -/

/-- What leads from one moment to another is something that happens to the loop, while the world
stays the same. -/
structure Proceeds (first later : PolledLoop ρ μ) : Prop where
  world : later.world = first.world
  loop : ∃ actions : List (Consumer.Action ρ μ), later.loop = actions.foldl Loop.act first.loop

namespace Proceeds

theorem refl (polled : PolledLoop ρ μ) : polled.Proceeds polled := ⟨rfl, [], rfl⟩

theorem trans (here : first.Proceeds middle) (there : middle.Proceeds later) :
    first.Proceeds later := by
  obtain ⟨actions, loop⟩ := here.loop
  obtain ⟨actions', loop'⟩ := there.loop
  refine ⟨there.world.trans here.world, actions ++ actions', ?_⟩
  rw [loop', loop, List.foldl_append]

theorem take? (taken : polled.take? input = some later) : polled.Proceeds later := by
  obtain ⟨stage, next, agrees, _, rfl⟩ := exists_of_take? taken
  refine ⟨rfl, [.take input], ?_⟩
  simp [Loop.act, next, agrees]

theorem poll (polled : PolledLoop ρ μ) (branches : List (Branch ρ μ))
    (last? : Option (Input ρ μ)) : polled.Proceeds (polled.poll branches last?) :=
  poll_induction refl trans (fun polled => ⟨polled.world_queue, [], polled.loop_queue⟩) take?
    polled branches last?

end Proceeds

/-- In a run the loop does what a loop does, and the scopes above it stay the same. -/
theorem proceeds_run (scope : Nat) (world : World) (actions : List (Action ρ μ)) :
    (run scope world actions : PolledLoop ρ μ).world.scopesAbove scope = world.scopesAbove scope ∧
      ∃ plain, (run scope world actions).loop = Loop.run (world.isCancelled scope) plain := by
  induction actions using List.reverseRecOn with
  | nil => exact ⟨rfl, [], rfl⟩
  | append_singleton earlier action ih =>
    obtain ⟨above, plain, loop⟩ := ih
    rw [run_snoc]
    cases action with
    | cancel target =>
      refine ⟨(World.scopesAbove_cancelScope _ _ _).trans above, ?_⟩
      rw [act]
      split
      · refine ⟨plain ++ [.cancel], ?_⟩
        rw [Loop.run, List.foldl_append, loop]
        rfl
      · exact ⟨plain, loop⟩
    | attend action =>
      rw [act]
      split
      · exact ⟨above, plain, loop⟩
      · exact ⟨above, plain, loop⟩
    | poll branches last? =>
      obtain ⟨world_eq, more, loop_eq⟩ := Proceeds.poll (run scope world earlier) branches last?
      refine ⟨?_, plain ++ more, ?_⟩
      · rw [act, world_eq, above]
      · rw [act, loop_eq, loop, Loop.run, Loop.run, List.foldl_append]

/-! ## The place in the anteroom -/

/-- The loop has been given an admission and not taken it up. -/
def HasAdmission (polled : PolledLoop ρ μ) : Prop :=
  ∃ place, polled.place? = some place ∧ place ∈ Anteroom.admitted polled.room.record

/-- A loop has a place in the anteroom only when it waits for an admission, and then it is there. -/
structure IsSound (polled : PolledLoop ρ μ) : Prop where
  room : polled.room.IsSound
  place : ∀ place, polled.place? = some place → Anteroom.IsThere polled.room.record place ∧
    ∃ reader message work, polled.loop.stage = .awaiting reader message work

theorem not_hasAdmission_of_place? (none : polled.place? = none) : ¬ polled.HasAdmission := by
  rintro ⟨place, has, _⟩
  rw [none] at has
  cases has

namespace IsSound

theorem start (scope : Nat) (world : World) : (start scope world : PolledLoop ρ μ).IsSound where
  room := Anteroom.isSound_run []
  place := nofun

/-- A loop that looks finds its admission. -/
theorem isAdmitted_iff (sound : polled.IsSound) :
    polled.isAdmitted = true ↔ polled.HasAdmission := by
  rw [isAdmitted, HasAdmission]
  cases has : polled.place? with
  | none => simp
  | some place =>
    have found := sound.room.look_eq (sound.place place has).1
    by_cases isAdmitted : place ∈ Anteroom.admitted polled.room.record
    · simp [found, isAdmitted]
    · simp [found, isAdmitted]

theorem take? (sound : polled.IsSound) (taken : polled.take? input = some later) :
    later.IsSound := by
  obtain ⟨stage, _, _, _, rfl⟩ := exists_of_take? taken
  refine ⟨?_, nofun⟩
  rw [leaveRoom]
  split
  · exact sound.room.act _
  · exact sound.room

/-- A place that is taken in the line is no admission yet. -/
theorem queue (sound : polled.IsSound) :
    polled.queue.IsSound ∧ (polled.queue.HasAdmission → polled.HasAdmission) := by
  rw [PolledLoop.queue]
  split
  case h_1 reader message work awaiting _ =>
    obtain ⟨isThere, unadmitted⟩ := sound.room.isThere_enter
    constructor
    · refine ⟨sound.room.act .enter, ?_⟩
      intro place has
      cases has
      exact ⟨isThere, reader, message, work, awaiting⟩
    · rintro ⟨place, has, admitted⟩
      cases has
      exact absurd admitted unadmitted
  case h_2 => exact ⟨sound, id⟩

theorem poll (sound : polled.IsSound) (branches : List (Branch ρ μ))
    (last? : Option (Input ρ μ)) : (polled.poll branches last?).IsSound :=
  @poll_induction ρ μ (fun first later => first.IsSound → later.IsSound) (fun _ => id)
    (fun here there sound => there (here sound)) (fun _ sound => sound.queue.1)
    (fun taken sound => sound.take? taken) polled branches last? sound

theorem act (sound : polled.IsSound) (scope : Nat) (action : Action ρ μ) :
    (polled.act scope action).IsSound := by
  cases action with
  | cancel target =>
    refine ⟨sound.room, ?_⟩
    intro place has
    obtain ⟨isThere, reader, message, work, awaiting⟩ := sound.place place has
    refine ⟨isThere, reader, message, work, ?_⟩
    rw [PolledLoop.act]
    split
    · exact awaiting
    · exact awaiting
  | attend action =>
    rw [PolledLoop.act]
    split
    case isTrue => exact sound
    case isFalse others =>
      refine ⟨sound.room.act action, ?_⟩
      intro place has
      obtain ⟨isThere, waits⟩ := sound.place place has
      refine ⟨Anteroom.isThere_act isThere ?_, waits⟩
      intro same
      exact others ⟨Option.isSome_of_eq_some has, same.trans has.symm⟩
  | poll branches last? => exact sound.poll branches last?

end IsSound

end PolledLoop

/-! ## What a cancelled loop still does -/

/-- Whether a reader is asked for, or work is started. -/
def Occurrence.isVenture : Occurrence ρ μ → Bool
  | called .openReader => true
  | called (.dispatch _) => true
  | _ => false

/-- No reader is asked for, and no work is started. -/
def IsQuiet (trace : List (Occurrence ρ μ)) : Prop :=
  ∀ occurrence ∈ trace, occurrence.isVenture = false

theorem IsQuiet.append {trace more : List (Occurrence ρ μ)} (quiet : IsQuiet trace)
    (quiet' : IsQuiet more) : IsQuiet (trace ++ more) := by
  intro occurrence member
  rcases List.mem_append.1 member with earlier | new
  · exact quiet occurrence earlier
  · exact quiet' occurrence new

theorem IsQuiet.notMem_dispatch {trace : List (Occurrence ρ μ)} (quiet : IsQuiet trace)
    (work : Work) : .called (.dispatch work) ∉ trace := by
  intro member
  cases quiet _ member

/-- While the token is cancelled, a loop that has no admission comes to nothing of the kind. -/
theorem Move.isQuiet_entry {stage later : Stage ρ μ} {input : Input ρ μ}
    (move : Move stage input later) (agrees : input.agrees true = true)
    (other : input.isAdmission = false) : IsQuiet (later.entry input) := by
  cases move with
  | began isCancelled =>
    obtain rfl : isCancelled = true := by simpa [Input.agrees] using agrees
    simp [IsQuiet, Stage.entry, Stage.begin, Stage.call?, Occurrence.isVenture]
  | closed reader resumes isCancelled =>
    obtain rfl : isCancelled = true := by simpa [Input.agrees] using agrees
    simp [IsQuiet, Stage.entry, Stage.begin, Stage.call?, Occurrence.isVenture]
  | admitted => cases other
  | _ => simp [IsQuiet, Stage.entry, Stage.call?, Occurrence.isVenture]

/-- A loop that gives up a wait comes to none that can be cancelled. -/
theorem Move.isCancellable_of_cancelled {stage later : Stage ρ μ}
    (move : Move stage .cancelled later) : later.isCancellable = false := by
  cases move <;> rfl

namespace PolledLoop

variable {polled first middle later here : PolledLoop ρ μ} {input : Input ρ μ}
  {more : List (Occurrence ρ μ)}

/-- What a cancelled loop can still do: be quiet, or first start the work for which it has been
given an admission. -/
inductive Finishes (polled : PolledLoop ρ μ) : List (Occurrence ρ μ) → Prop where
  | quiet {more : List (Occurrence ρ μ)} (isQuiet : IsQuiet more) : Finishes polled more
  | starts {reader : ρ} {message : μ} {work : Work} {rest : List (Occurrence ρ μ)}
    (admitted : polled.HasAdmission) (awaits : polled.loop.stage = .awaiting reader message work)
    (isQuiet : IsQuiet rest) : Finishes polled (.took .admitted :: .called (.dispatch work) :: rest)

namespace Finishes

theorem append (finishes : polled.Finishes more) {rest : List (Occurrence ρ μ)}
    (quiet : IsQuiet rest) : polled.Finishes (more ++ rest) := by
  cases finishes with
  | quiet isQuiet => exact .quiet (isQuiet.append quiet)
  | starts admitted awaits isQuiet => exact .starts admitted awaits (isQuiet.append quiet)

theorem isQuiet (finishes : polled.Finishes more) (unadmitted : ¬ polled.HasAdmission) :
    IsQuiet more := by
  cases finishes with
  | quiet isQuiet => exact isQuiet
  | starts admitted _ _ => exact absurd admitted unadmitted

/-- What is seen at some point: something quiet with quiet to follow, the admission, or the start of
the work that it was given for. -/
theorem cases_split {before after : List (Occurrence ρ μ)} {occurrence : Occurrence ρ μ}
    (finishes : polled.Finishes (before ++ occurrence :: after)) :
    IsQuiet (occurrence :: after) ∨ occurrence = .took .admitted ∨
      (before = [.took .admitted] ∧ IsQuiet after ∧ polled.HasAdmission ∧
        ∃ reader message work, occurrence = .called (.dispatch work) ∧
          polled.loop.stage = .awaiting reader message work) := by
  generalize split : before ++ occurrence :: after = more at finishes
  cases finishes with
  | quiet isQuiet =>
    subst split
    exact .inl fun occurrence member => isQuiet occurrence (List.mem_append_right _ member)
  | @starts reader message work rest admitted awaits isQuiet =>
    rcases before with _ | ⟨first, _ | ⟨second, before⟩⟩
    · exact .inr (.inl (List.cons.inj split).1)
    · obtain ⟨rfl, same⟩ := List.cons.inj split
      obtain ⟨called, rfl⟩ := List.cons.inj same
      exact .inr (.inr ⟨rfl, isQuiet, admitted, reader, message, work, called, awaits⟩)
    · obtain ⟨_, same⟩ := List.cons.inj split
      obtain ⟨_, rfl⟩ := List.cons.inj same
      exact .inl fun occurrence member => isQuiet occurrence (List.mem_append_right _ member)

/-- No reader is asked for. -/
theorem notMem_openReader (finishes : polled.Finishes more) :
    .called .openReader ∉ more := by
  intro member
  obtain ⟨before, after, rfl⟩ := List.append_of_mem member
  rcases finishes.cases_split with quiet | admitted | ⟨_, _, _, _, _, _, started, _⟩
  · cases quiet _ List.mem_cons_self
  · cases admitted
  · cases started

/-- Work is started for the admission at most, and before anything else is done. -/
theorem of_dispatch {before after : List (Occurrence ρ μ)} {work : Work}
    (finishes : polled.Finishes (before ++ .called (.dispatch work) :: after)) :
    before = [.took .admitted] ∧ IsQuiet after ∧ polled.HasAdmission ∧
      ∃ reader message, polled.loop.stage = .awaiting reader message work := by
  rcases finishes.cases_split with quiet | admitted |
    ⟨alone, quiet, admitted, reader, message, _, started, awaits⟩
  · cases quiet _ List.mem_cons_self
  · cases admitted
  · cases started
    exact ⟨alone, quiet, admitted, reader, message, awaits⟩

/-- After a message is read nothing is started. -/
theorem of_received {before after : List (Occurrence ρ μ)} {message : μ}
    (finishes : polled.Finishes (before ++ .took (.received (.ok message)) :: after)) :
    IsQuiet after := by
  rcases finishes.cases_split with quiet | admitted | ⟨_, _, _, _, _, _, started, _⟩
  · exact fun occurrence member => quiet occurrence (List.mem_cons_of_mem _ member)
  · cases admitted
  · cases started

end Finishes

/-- A loop whose token is cancelled. -/
structure Recalled (polled : PolledLoop ρ μ) : Prop where
  sound : polled.IsSound
  cancelled : polled.loop.isCancelled = true

/-- From one moment of a poll to another a cancelled loop has done nothing, and nobody has given it
an admission; or what it has done is what it can still do, and no admission is left. -/
def Goes (first later : PolledLoop ρ μ) : Prop :=
  (later.loop = first.loop ∧ (later.HasAdmission → first.HasAdmission)) ∨
    (¬ later.HasAdmission ∧
      ∃ more, later.loop.trace = first.loop.trace ++ more ∧ first.Finishes more)

namespace Goes

theorem trans (here : first.Goes middle) (there : middle.Goes later) : first.Goes later := by
  rcases here with ⟨same, kept⟩ | ⟨unadmitted, more, trace, finishes⟩
  · rcases there with ⟨same', kept'⟩ | ⟨unadmitted, more, trace, finishes⟩
    · exact .inl ⟨same'.trans same, fun admitted => kept (kept' admitted)⟩
    · refine .inr ⟨unadmitted, more, same ▸ trace, ?_⟩
      cases finishes with
      | quiet isQuiet => exact .quiet isQuiet
      | starts admitted awaits isQuiet => exact .starts (kept admitted) (same ▸ awaits) isQuiet
  · refine .inr ?_
    rcases there with ⟨same', kept'⟩ | ⟨unadmitted', rest, trace', finishes'⟩
    · exact ⟨fun admitted => unadmitted (kept' admitted), more, same' ▸ trace, finishes⟩
    · refine ⟨unadmitted', more ++ rest, ?_, finishes.append (finishes'.isQuiet unadmitted)⟩
      rw [trace', trace, List.append_assoc]

theorem take? (recalled : first.Recalled) (taken : first.take? input = some later) :
    first.Goes later := by
  obtain ⟨stage, next, agrees, admitted, rfl⟩ := exists_of_take? taken
  have move := Move.of_next? next
  refine .inr ⟨not_hasAdmission_of_place? rfl, stage.entry input, rfl, ?_⟩
  cases isAdmission : input.isAdmission with
  | false => exact .quiet (move.isQuiet_entry (recalled.cancelled ▸ agrees) isAdmission)
  | true =>
    have has : first.HasAdmission := recalled.sound.isAdmitted_iff.1 (admitted isAdmission)
    generalize awaits : first.loop.stage = before at move
    cases move with
    | admitted reader message work => exact .starts has awaits nofun
    | _ => cases isAdmission

end Goes

/-- From one moment of a poll to another a loop stays cancelled, and goes on like one. -/
def Follows (first later : PolledLoop ρ μ) : Prop :=
  first.Recalled → later.Recalled ∧ first.Goes later

namespace Follows

theorem refl (polled : PolledLoop ρ μ) : polled.Follows polled :=
  fun recalled => ⟨recalled, .inl ⟨rfl, id⟩⟩

theorem trans (here : first.Follows middle) (there : middle.Follows later) :
    first.Follows later := by
  intro recalled
  obtain ⟨recalled', goes⟩ := here recalled
  obtain ⟨recalled'', goes'⟩ := there recalled'
  exact ⟨recalled'', goes.trans goes'⟩

theorem queue (polled : PolledLoop ρ μ) : polled.Follows polled.queue := by
  intro recalled
  obtain ⟨sound, kept⟩ := recalled.sound.queue
  refine ⟨⟨sound, ?_⟩, .inl ⟨polled.loop_queue, kept⟩⟩
  rw [loop_queue]
  exact recalled.cancelled

theorem take? (taken : first.take? input = some later) : first.Follows later := by
  intro recalled
  refine ⟨⟨recalled.sound.take? taken, ?_⟩, Goes.take? recalled taken⟩
  obtain ⟨stage, _, _, _, rfl⟩ := exists_of_take? taken
  exact recalled.cancelled

theorem foldl (polled : PolledLoop ρ μ) (branches : List (Branch ρ μ)) :
    polled.Follows (branches.foldl pollBranch polled) :=
  foldl_induction refl trans queue take? polled branches

theorem poll (polled : PolledLoop ρ μ) (branches : List (Branch ρ μ))
    (last? : Option (Input ρ μ)) : polled.Follows (polled.poll branches last?) :=
  poll_induction refl trans queue take? polled branches last?

end Follows

namespace Recalled

/-- A cancelled loop can give up any wait that can be cancelled. -/
theorem take?_cancelled_isSome (recalled : polled.Recalled) :
    (polled.take? .cancelled).isSome = polled.loop.stage.isCancellable := by
  rw [← Stage.next?_cancelled_isSome, PolledLoop.take?]
  cases polled.loop.stage.next? .cancelled with
  | none => rfl
  | some stage => simp [Input.agrees, Input.isAdmission, recalled.cancelled]

/-- A cancelled loop that comes to rest is not in the line for admission, nor in another wait that
can be cancelled. -/
theorem rest_gives_up (recalled : polled.Recalled) :
    polled.rest.place? = none ∧ polled.rest.loop.stage.isCancellable = false := by
  have queued : polled.queue.Recalled := (Follows.queue polled recalled).1
  rw [rest, pollBranch, pollBranch]
  cases taken : polled.queue.take? .cancelled with
  | some later =>
    obtain ⟨stage, next, _, _, rfl⟩ := exists_of_take? taken
    exact ⟨rfl, (Move.of_next? next).isCancellable_of_cancelled⟩
  | none =>
    rw [Option.getD_none]
    have stays : polled.queue.loop.stage.isCancellable = false := by
      rw [← queued.take?_cancelled_isSome, taken]
      rfl
    refine ⟨?_, stays⟩
    cases has : polled.queue.place? with
    | none => rfl
    | some place =>
      obtain ⟨_, reader, message, work, awaits⟩ := queued.sound.place place has
      rw [awaits] at stays
      cases stays

theorem isCancellable_poll (recalled : polled.Recalled) (branches : List (Branch ρ μ)) :
    (polled.poll branches none).loop.stage.isCancellable = false :=
  (Follows.foldl polled branches recalled).1.rest_gives_up.2

/-- **No poll leaves a cancelled loop in the line for admission.** -/
theorem place?_poll (recalled : polled.Recalled) (branches : List (Branch ρ μ))
    (last? : Option (Input ρ μ)) : (polled.poll branches last?).place? = none := by
  have within := (Follows.foldl polled branches recalled).1
  rw [PolledLoop.poll]
  cases taken : last?.bind (branches.foldl pollBranch polled).take? with
  | none => exact within.rest_gives_up.1
  | some later =>
    obtain ⟨input, _, taken⟩ := Option.bind_eq_some_iff.1 taken
    obtain ⟨_, _, _, _, rfl⟩ := exists_of_take? taken
    rfl

theorem act (recalled : polled.Recalled) (scope : Nat) (action : Action ρ μ) :
    (polled.act scope action).Recalled := by
  refine ⟨recalled.sound.act scope action, ?_⟩
  cases action with
  | cancel target =>
    rw [PolledLoop.act]
    split
    · rfl
    · exact recalled.cancelled
  | attend action =>
    rw [PolledLoop.act]
    split
    · exact recalled.cancelled
    · exact recalled.cancelled
  | poll branches last? => exact (Follows.poll polled branches last? recalled).1.cancelled

/-- A cancelled loop stays as it is, with its place, or has been polled. -/
theorem act_cases (recalled : polled.Recalled) (scope : Nat) (action : Action ρ μ) :
    ((polled.act scope action).loop = polled.loop ∧
      (polled.act scope action).place? = polled.place?) ∨
    ((polled.act scope action).place? = none ∧ polled.Goes (polled.act scope action)) := by
  cases action with
  | cancel target =>
    refine .inl ⟨?_, rfl⟩
    rw [PolledLoop.act]
    split
    · simp only [Loop.act, ← recalled.cancelled]
    · rfl
  | attend action =>
    refine .inl ?_
    rw [PolledLoop.act]
    split
    · exact ⟨rfl, rfl⟩
    · exact ⟨rfl, rfl⟩
  | poll branches last? =>
    exact .inr ⟨recalled.place?_poll branches last?,
      (Follows.poll polled branches last? recalled).2⟩

end Recalled

/-- What has come of a cancelled loop after some actions and more of them. At the first moment it is
as it was; since then it has finished. -/
structure Finished (scope : Nat) (here : PolledLoop ρ μ) (before after : List (Action ρ μ))
    (more : List (Occurrence ρ μ)) : Prop where
  loop : (before.foldl (act scope) here).loop = here.loop
  place : (before.foldl (act scope) here).place? = here.place?
  trace : ((before ++ after).foldl (act scope) here).loop.trace = here.loop.trace ++ more
  finishes : (before.foldl (act scope) here).Finishes more

/-- A cancelled loop is as it was, or it is out of the line and has finished. -/
theorem Recalled.foldl_cases (recalled : here.Recalled) (scope : Nat)
    (actions : List (Action ρ μ)) :
    let there := actions.foldl (PolledLoop.act scope) here
    there.Recalled ∧ ((there.loop = here.loop ∧ there.place? = here.place?) ∨
      there.place? = none ∧ ∃ before after more, actions = before ++ after ∧
        Finished scope here before after more) := by
  induction actions using List.reverseRecOn with
  | nil => exact ⟨recalled, .inl ⟨rfl, rfl⟩⟩
  | append_singleton actions action ih =>
    obtain ⟨recalled', ih⟩ := ih
    intro there
    have last : there = (actions.foldl (PolledLoop.act scope) here).act scope action :=
      List.foldl_concat _ _ _ _
    refine ⟨last ▸ recalled'.act scope action, ?_⟩
    rcases recalled'.act_cases scope action with ⟨loop, place⟩ | ⟨none, goes⟩
    · -- the loop has not been polled now
      rw [← last] at loop place
      rcases ih with ⟨loop', place'⟩ | ⟨none, before, after, more, rfl, finished⟩
      · exact .inl ⟨loop.trans loop', place.trans place'⟩
      · refine .inr ⟨place.trans none, before, after ++ [action], more, List.append_assoc _ _ _, ?_⟩
        refine ⟨finished.loop, finished.place, ?_, finished.finishes⟩
        rw [← List.append_assoc]
        exact (congrArg Loop.trace loop).trans finished.trace
    · rw [← last] at none goes
      refine .inr ⟨none, ?_⟩
      rcases ih with ⟨loop', place'⟩ | ⟨none', before, after, more, rfl, finished⟩
      · -- this is the first poll
        rcases goes with ⟨same, _⟩ | ⟨_, more, trace, finishes⟩
        · refine ⟨actions, [action], [], rfl, loop', place', ?_, .quiet nofun⟩
          rw [List.append_nil]
          exact congrArg Loop.trace (same.trans loop')
        · exact ⟨actions, [action], more, rfl, loop', place', loop' ▸ trace, finishes⟩
      · have unadmitted := not_hasAdmission_of_place? none'
        rcases goes with ⟨same, _⟩ | ⟨_, rest, trace, finishes⟩
        · refine ⟨before, after ++ [action], more, List.append_assoc _ _ _, finished.loop,
            finished.place, ?_, finished.finishes⟩
          rw [← List.append_assoc]
          exact (congrArg Loop.trace same).trans finished.trace
        · refine ⟨before, after ++ [action], more ++ rest, List.append_assoc _ _ _, finished.loop,
            finished.place, ?_, finished.finishes.append (finishes.isQuiet unadmitted)⟩
          rw [← List.append_assoc, ← List.append_assoc, ← finished.trace]
          exact trace

/-- **What a run does to a cancelled loop.** Up to some moment it leaves the loop as it is; then the
loop finishes. -/
theorem Recalled.exists_finished (recalled : here.Recalled) (scope : Nat)
    (actions : List (Action ρ μ)) : ∃ before after more, actions = before ++ after ∧
      Finished scope here before after more := by
  rcases (recalled.foldl_cases scope actions).2 with ⟨loop, place⟩ | ⟨_, finished⟩
  · refine ⟨actions, [], [], (List.append_nil _).symm, loop, place, ?_, .quiet nofun⟩
    rw [List.append_nil, List.append_nil, loop]
  · exact finished

end PolledLoop

/-! ## Cancellation -/

/-- Nothing is started in this life. -/
def Life.IsUnstarted (life : Life) : Prop := ∀ work, life ≠ .dispatched work

/-- How it goes with a message for which nothing is started: it is discarded and acknowledged, or it
is left unacknowledged and the reader is closed, or this is not decided yet. -/
def IsSpared (message : μ) (stage : Stage ρ μ) (after : List (Occurrence ρ μ)) : Prop :=
  (∃ life : Life, life.IsUnstarted ∧ life.IsLed message stage after) ∨
    (Course message stage after ∧ ∀ work, .called (.dispatch work) ∉ after)

theorem Accounted.isSpared {stage : Stage ρ μ} {trace before after : List (Occurrence ρ μ)}
    {message : μ} (accounted : Accounted stage trace)
    (split : trace = before ++ .took (.received (.ok message)) :: after)
    (unstarted : ∀ work, .called (.dispatch work) ∉ after) : IsSpared message stage after := by
  rcases accounted before message after split with ⟨life, led⟩ | on
  · refine .inl ⟨life, ?_, led⟩
    rintro work rfl
    obtain ⟨rest, rfl, _⟩ := led
    apply unstarted work
    simp [Life.events]
  · exact .inr ⟨on, unstarted⟩

namespace PolledLoop

theorem isSound_run (scope : Nat) (world : World) (actions : List (Action ρ μ)) :
    (run scope world actions : PolledLoop ρ μ).IsSound := by
  induction actions using List.reverseRecOn with
  | nil => exact .start scope world
  | append_singleton earlier action ih =>
    rw [run_snoc]
    exact ih.act scope action

/-- A loop is cancelled with its scope and with every scope above it. -/
theorem recalled_cancel {scope target : Nat} {world : World}
    (above : target = scope ∨ target ∈ world.scopesAbove scope) (actions : List (Action ρ μ)) :
    (run scope world (actions ++ [.cancel target]) : PolledLoop ρ μ).Recalled := by
  refine ⟨isSound_run _ _ _, ?_⟩
  have same := (proceeds_run (ρ := ρ) (μ := μ) scope world actions).1
  have cancelled : ((run scope world actions : PolledLoop ρ μ).world.cancelScope target).isCancelled
      scope = true := by
    rw [World.isCancelled_cancelScope, same]
    exact .inr (above.imp_left Eq.symm)
  have told : (run scope world (actions ++ [.cancel target])).loop =
      (run scope world actions).loop.act .cancel := by
    rw [run_snoc]
    exact if_pos cancelled
  rw [told]
  rfl

/-- A loop in a scope that is cancelled already asks for no reader. -/
theorem notMem_openReader {scope : Nat} {world : World} (cancelled : world.isCancelled scope = true)
    (actions : List (Action ρ μ)) :
    .called .openReader ∉ (run scope world actions).loop.trace := by
  have recalled : (start scope world : PolledLoop ρ μ).Recalled := ⟨.start scope world, cancelled⟩
  obtain ⟨before, after, more, rfl, finished⟩ := recalled.exists_finished scope actions
  have trace : (run scope world (before ++ after)).loop.trace = more := finished.trace
  rw [trace]
  exact finished.finishes.notMem_openReader

/-- What was received before is on its course or has led a life, whatever becomes of the loop. -/
theorem accounted_run (scope : Nat) (world : World) (actions : List (Action ρ μ)) :
    Accounted (run scope world actions).loop.stage (run scope world actions).loop.trace := by
  obtain ⟨_, plain, loop⟩ := proceeds_run (ρ := ρ) (μ := μ) scope world actions
  rw [loop]
  exact Loop.run_induction .start .step _ plain

/-- **Cancellation is final.** Let the token of a loop be cancelled, its own or one above it, and
let anything happen after that, with any branch polled first. The loop asks for no other reader, and
after a poll that the runtime did not end it is in no wait that can be cancelled. It starts work
once more at most: for the message for which it was waiting to be admitted, and only if an offer had
admitted it before the loop has done anything else, so that it cannot have seen that it is
cancelled. Every message that it still reads is discarded and acknowledged, or left unacknowledged
when the reader is closed. So is the message in hand, unless its work is started for that admission
or had been started before. A loop whose token is cancelled from the start, or is a new one below a
cancelled one, never asks for a reader. -/
theorem cancellation_is_final (scope : Nat) (world : World) :
    (∀ target, target = scope ∨ target ∈ world.scopesAbove scope →
      ∀ before after : List (Action ρ μ),
      let here := run scope world (before ++ [.cancel target])
      let there := run scope world (before ++ [.cancel target] ++ after)
      ∃ more, there.loop.trace = here.loop.trace ++ more ∧
        .called .openReader ∉ more ∧
        (∀ earlier branches, after = earlier ++ [.poll branches none] →
          there.loop.stage.isCancellable = false) ∧
        (∀ first work rest, more = first ++ .called (.dispatch work) :: rest →
          first = [.took .admitted] ∧ (∀ other, .called (.dispatch other) ∉ rest) ∧
          ∃ reader message place between later,
            here.loop.stage = .awaiting reader message work ∧ here.place? = some place ∧
            after = between ++ later ∧
            let handed := run scope world (before ++ [.cancel target] ++ between)
            handed.loop = here.loop ∧
              ∃ past since, handed.room.record = past ++ .offered true [place] :: since) ∧
        (∀ first message rest, more = first ++ .took (.received (.ok message)) :: rest →
          IsSpared message there.loop.stage rest) ∧
        (∀ first message course,
          here.loop.trace = first ++ .took (.received (.ok message)) :: course →
          Course message here.loop.stage course →
          IsSpared message there.loop.stage (course ++ more) ∨
            (∃ work, .called (.dispatch work) ∈ course) ∨
            ∃ work rest, more = .took .admitted :: .called (.dispatch work) :: rest)) ∧
    (world.isCancelled scope = true → ∀ actions : List (Action ρ μ),
      .called .openReader ∉ (run scope world actions).loop.trace) ∧
    (∀ parent, world.isCancelled parent = true → ∀ actions : List (Action ρ μ),
      let (token, world) := world.openScope parent
      .called .openReader ∉ (run token world actions).loop.trace) := by
  refine ⟨?_, notMem_openReader, ?_⟩
  · intro target above before after here there
    have recalled : here.Recalled := recalled_cancel above before
    have there_eq : there = after.foldl (act scope) here := run_append scope world _ after
    obtain ⟨between, later, more, rfl, finished⟩ := recalled.exists_finished scope after
    have trace : there.loop.trace = here.loop.trace ++ more := there_eq ▸ finished.trace
    have accounted : Accounted there.loop.stage there.loop.trace := accounted_run scope world _
    have finishes := finished.finishes
    refine ⟨more, trace, finishes.notMem_openReader, ?_, ?_, ?_, ?_⟩
    · intro earlier branches last
      rw [there_eq, last, List.foldl_concat]
      exact (recalled.foldl_cases scope earlier).1.isCancellable_poll branches
    · rintro first work rest rfl
      obtain ⟨alone, quiet, ⟨place, has, admitted⟩, reader, message, awaits⟩ := finishes.of_dispatch
      have handed_eq : run scope world (before ++ [.cancel target] ++ between) =
          between.foldl (act scope) here := run_append scope world _ between
      have sound := isSound_run scope world (before ++ [Action.cancel target] ++ between)
      refine ⟨alone, quiet.notMem_dispatch, reader, message, place, between, later, ?_, ?_, rfl, ?_⟩
      · rw [← finished.loop]
        exact awaits
      · rw [← finished.place]
        exact has
      · refine ⟨handed_eq ▸ finished.loop, ?_⟩
        obtain ⟨past, since, record, _⟩ := sound.room.history.exists_offered (handed_eq ▸ admitted)
        exact ⟨past, since, record⟩
    · rintro first message rest rfl
      have split : there.loop.trace =
          (here.loop.trace ++ first) ++ .took (.received (.ok message)) :: rest := by
        rw [trace, List.append_assoc]
      exact accounted.isSpared split finishes.of_received.notMem_dispatch
    · intro first message course split on
      have split' : there.loop.trace =
          first ++ .took (.received (.ok message)) :: (course ++ more) := by
        rw [trace, split, List.append_assoc, List.cons_append]
      by_cases started : ∃ work, .called (.dispatch work) ∈ course
      · exact .inr (.inl started)
      · cases finishes with
        | starts _ _ _ => exact .inr (.inr ⟨_, _, rfl⟩)
        | quiet isQuiet =>
          refine .inl (accounted.isSpared split' ?_)
          intro work member
          rcases List.mem_append.1 member with earlier | new
          · exact started ⟨work, earlier⟩
          · exact isQuiet.notMem_dispatch work new
  · intro parent cancelled actions
    exact notMem_openReader ((world.isCancelled_openScope parent).trans cancelled) actions

/-- A world with three scopes, each below the one before. -/
def threeScopes : World :=
  let (manager, world) := (World.fresh .standard).openScope Simulation.rootScope
  (world.openScope manager).2

/-- A loop reads a message and waits for an admission. -/
def arrival (work : Work) : List (Action Unit String) :=
  [.poll [.ready (.began false), .ready (.opened (.ok ())), .ready (.received (.ok "a")),
    .ready (.inspected (.dispatch work))] none]

/-- The loop when it waits, and is cancelled. -/
def waiting (work : Work) : PolledLoop Unit String where
  world := threeScopes.cancelScope 1
  room := ⟨⟨[⟨0, true⟩], []⟩, [.entered 0]⟩
  loop := ⟨.awaiting () "a" work, true, [.took (.began false), .called .openReader,
    .took (.opened (.ok ())), .called (.read ()), .took (.received (.ok "a")),
    .called (.inspect "a"), .took (.inspected (.dispatch work)), .called .wait]⟩
  place? := some 0

theorem run_arrival (work : Work) :
    run 2 threeScopes (arrival work ++ [.cancel 1]) = waiting work := by rfl

/-- It is admitted, starts the work, and is polled with another message there to be read. -/
def conclusion : List (Action Unit String) :=
  [.attend .offer,
    .poll [.ready .admitted, .ready .dispatched, .ready .acknowledged,
      .ready (.received (.ok "b"))] none]

/-- What is seen of the loop from then on. -/
def aftermath (work : Work) : List (Occurrence Unit String) :=
  [.took .admitted, .called (.dispatch work), .took .dispatched, .called (.acknowledge "a"),
    .took .acknowledged, .called (.read ()), .took (.received (.ok "b")), .called (.inspect "b"),
    .took .cancelled, .called (.close ())]

theorem run_conclusion (work : Work) :
    conclusion.foldl (act 2) (waiting work) =
      ⟨threeScopes.cancelScope 1,
        ⟨⟨[], []⟩, [.entered 0, .offered true [0], .looked 0 .admitted]⟩,
        ⟨.closing () false, true, (waiting work).loop.trace ++ aftermath work⟩, none⟩ := by rfl

theorem trace_conclusion (work : Work) :
    (run 2 threeScopes (arrival work ++ [.cancel 1] ++ conclusion)).loop.trace =
      (run 2 threeScopes (arrival work ++ [.cancel 1])).loop.trace ++ aftermath work := by
  rw [run_append, run_arrival, run_conclusion]

theorem cancellation_is_final_whileAwaiting :
    let work : Work := .worker ⟨"late", by decide +kernel⟩
    let begins : List (Action Unit String) := [.poll [.ready (.began true)] none]
    (1 ∈ threeScopes.scopesAbove 2 ∧
      .called .openReader ∉ aftermath work ∧
      (∀ other, .called (.dispatch other) ∉ (aftermath work).drop 2) ∧
      IsSpared "b" (run 2 threeScopes (arrival work ++ [.cancel 1] ++ conclusion)).loop.stage
        ((aftermath work).drop 7)) ∧
    ((threeScopes.cancelScope 0).isCancelled 2 = true ∧
      .called .openReader ∉ (run 2 (threeScopes.cancelScope 0) begins).loop.trace ∧
      .called .openReader ∉ (run ((threeScopes.cancelScope 0).openScope 2).1
        ((threeScopes.cancelScope 0).openScope 2).2 begins).loop.trace) := by
  intro work begins
  have above : 1 ∈ threeScopes.scopesAbove 2 := by decide
  have cancelled : (threeScopes.cancelScope 0).isCancelled 2 = true := by decide
  refine ⟨?_, cancelled, ?_, ?_⟩
  · obtain ⟨more, seen, unopened, _, starts, spared, _⟩ :=
      (cancellation_is_final 2 threeScopes).1 1 (.inr above) (arrival work) conclusion
    obtain rfl : more = aftermath work :=
      List.append_cancel_left (seen.symm.trans (trace_conclusion work))
    have started : aftermath work =
        [.took .admitted] ++ .called (.dispatch work) :: (aftermath work).drop 2 := rfl
    have read : aftermath work =
        (aftermath work).take 6 ++ .took (.received (.ok "b")) :: (aftermath work).drop 7 := rfl
    exact ⟨above, unopened, (starts _ _ _ started).2.1, spared _ _ _ read⟩
  · exact (cancellation_is_final 2 (threeScopes.cancelScope 0)).2.1 cancelled begins
  · exact (cancellation_is_final 2 (threeScopes.cancelScope 0)).2.2 2 cancelled begins

end PolledLoop

end Turnstile.Consumer
