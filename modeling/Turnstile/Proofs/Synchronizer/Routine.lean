import Mathlib.Data.List.DropRight
import Mathlib.Data.List.Induction
import Turnstile.Simulation.Turns

/-!
# The routine of a synchronizer

A synchronizer lists, watches from the version of that listing until the watch comes to an end,
rests, and lists again. What it gets for its calls is up to the substrate, and it may be cancelled
at any time, also before it has made the call of the stage to which it has come. So a run is given
by any list of **actions**: time passes, the synchronizer makes its call, or it takes an input.
Inputs that do not fit are passed over; in particular the reply to a call comes after the call, and
a rest is over only when its time is.

The **trace** holds the calls and the inputs with their times. Whatever the actions were, every
watch is started from the one listing since the watch before it, and a listing that follows a failed
one or a watch comes right after a full rest (`Routine.watches_follow_listings`). So two watches
never use the version of one listing. The calls are those that the simulation notes
(`Simulation.World.log_enterSynchronizer`).
-/

set_option autoImplicit false

namespace Turnstile.Synchronizer

/-! ## Moves -/

/-- The moves of a synchronizer: a stage, an input that it takes, and the stage that it leads to. -/
inductive Move : Stage → Input → Stage → Prop where
  | began : Move (.idle none) .began .listing
  | beganFrom (version : String) : Move (.idle (some version)) .began (.opening version)
  | listed (page : PodPage) : Move .listing (.listed (.ok page)) (.opening (versionOf page))
  | unlisted (fault : SubstrateFault) : Move .listing (.listed (.error fault)) .resting
  | opened (version : String) : Move (.opening version) (.opened (.ok ())) .watching
  | unopened (version : String) (fault : SubstrateFault) :
    Move (.opening version) (.opened (.error fault)) .resting
  | told (event : WatchEvent) : Move .watching (.item (.ok event)) .watching
  | failed (fault : SubstrateFault) : Move .watching (.item (.error fault)) .resting
  | ended : Move .watching .ended .resting
  | rested : Move .resting .rested .listing
  | cancelled {stage : Stage} (isCancellable : stage.isCancellable) :
    Move stage .cancelled .stopped

theorem Move.of_step {kind : WorkKind} {tracker : Tracker} {stage later : Stage} {input : Input}
    {effect : Effect} (stepped : step kind tracker stage input = some (later, effect)) :
    Move stage input later := by
  unfold step at stepped
  split at stepped
  case h_11 =>
    split at stepped
    case isTrue isCancellable =>
      cases stepped
      exact .cancelled isCancellable
    case isFalse => cases stepped
  all_goals
    cases stepped
    try constructor

/-! ## Traces -/

/-- What a synchronizer asks for. -/
inductive Call where
  | list (selector : String)
  | watch (selector version : String)
  /-- A rest before it lists again. -/
  | rest
deriving DecidableEq

/-- The call that the synchronizer of a kind makes at a stage. -/
def Stage.call? (kind : WorkKind) : Stage → Option Call
  | .listing => some (.list kind.selector)
  | .opening version => some (.watch kind.selector version)
  | .resting => some .rest
  | _ => none

/-- What can be seen of a synchronizer. -/
inductive Occurrence where
  | called (call : Call)
  | took (input : Input)

namespace Occurrence

/-- A watch is called for. -/
def isWatch : Occurrence → Bool
  | called (.watch _ _) => true
  | _ => false

/-- A listing has failed. -/
def isFailedListing : Occurrence → Bool
  | took (.listed (.error _)) => true
  | _ => false

/-- The listing that has succeeded. -/
def page? : Occurrence → Option PodPage
  | took (.listed (.ok page)) => some page
  | _ => none

/-- The version with which a watch is called for. -/
def version? : Occurrence → Option String
  | called (.watch _ version) => some version
  | _ => none

theorem isWatch_cases (occurrence : Occurrence) :
    (∃ selector version, occurrence = .called (.watch selector version)) ∨
    occurrence.isWatch = false ∧ occurrence.version? = none := by
  cases occurrence with
  | took input => exact .inr ⟨rfl, rfl⟩
  | called call =>
    cases call with
    | watch selector version => exact .inl ⟨selector, version, rfl⟩
    | list selector => exact .inr ⟨rfl, rfl⟩
    | rest => exact .inr ⟨rfl, rfl⟩

end Occurrence

/-- What has been seen, earliest first, with the times. -/
abbrev Trace := List (Nat × Occurrence)

namespace Trace

/-- The listings that have succeeded. -/
def pages (trace : Trace) : List PodPage := trace.filterMap fun entry => entry.2.page?

/-- The versions with which watches were called for. -/
def versions (trace : Trace) : List String := trace.filterMap fun entry => entry.2.version?

/-- Whether a watch was called for. -/
def hasWatch (trace : Trace) : Bool := trace.any fun entry => entry.2.isWatch

/-- Whether a listing has failed. -/
def hasFailedListing (trace : Trace) : Bool := trace.any fun entry => entry.2.isFailedListing

/-- What has been seen since a watch was called for the last time. -/
def sinceWatch (trace : Trace) : Trace := trace.rtakeWhile fun entry => !entry.2.isWatch

/-- What was seen before, that call included. -/
def upToWatch (trace : Trace) : Trace := trace.rdropWhile fun entry => !entry.2.isWatch

/-- A rest that is over, and has taken its time. -/
def IsRest (pause : Nat) (rest : Trace) : Prop :=
  ∃ start stop, rest = [(start, .called .rest), (stop, .took .rested)] ∧ start + pause ≤ stop

variable (trace : Trace) (time : Nat) (occurrence : Occurrence)

theorem pages_snoc :
    pages (trace ++ [(time, occurrence)]) = pages trace ++ occurrence.page?.toList := by
  cases isPage : occurrence.page? <;> simp [pages, isPage]

theorem versions_snoc :
    versions (trace ++ [(time, occurrence)]) = versions trace ++ occurrence.version?.toList := by
  cases version : occurrence.version? <;> simp [versions, version]

theorem hasWatch_snoc :
    hasWatch (trace ++ [(time, occurrence)]) = (hasWatch trace || occurrence.isWatch) := by
  simp [hasWatch]

theorem sinceWatch_snoc :
    sinceWatch (trace ++ [(time, occurrence)]) =
      if occurrence.isWatch then [] else sinceWatch trace ++ [(time, occurrence)] := by
  cases isWatch : occurrence.isWatch <;> simp [sinceWatch, isWatch]

theorem upToWatch_snoc :
    upToWatch (trace ++ [(time, occurrence)]) =
      if occurrence.isWatch then trace ++ [(time, occurrence)] else upToWatch trace := by
  cases isWatch : occurrence.isWatch <;> simp [upToWatch, isWatch]

theorem pages_eq : trace.pages = trace.upToWatch.pages ++ trace.sinceWatch.pages := by
  rw [pages, pages, pages, ← List.filterMap_append, upToWatch, sinceWatch,
    List.rdropWhile_append_rtakeWhile]

end Trace

/-! ## Routines -/

/-- A synchronizer at its routine. -/
structure Routine where
  stage : Stage
  /-- When it has made the call of the stage, if it has. -/
  calledAt : Option Nat
  now : Nat
  trace : Trace

namespace Routine

/-- What can happen. -/
inductive Action where
  /-- Time passes. -/
  | pass (amount : Nat)
  /-- The synchronizer makes the call of its stage. -/
  | call
  /-- It takes an input, while the tracker is as the others have left it. -/
  | take (tracker : Tracker) (input : Input)

/-- A synchronizer at its start; there may have been a first listing. -/
def start (kind : WorkKind) (first : Option PodPage) : Routine where
  stage := .idle (first.map versionOf)
  calledAt := none
  now := 0
  trace := match first with
    | some page => [(0, .called (.list kind.selector)), (0, .took (.listed (.ok page)))]
    | none => []

/-- Whether an input can come now: the reply to a call comes after the call, a rest takes its time,
and cancellations come whenever they like. -/
def admits (kind : WorkKind) (pause : Nat) (routine : Routine) : Input → Bool
  | .cancelled => true
  | .rested => routine.calledAt.any fun start => start + pause ≤ routine.now
  | _ => (routine.stage.call? kind).isNone || routine.calledAt.isSome

/-- Something is seen. -/
def see (routine : Routine) (occurrence : Occurrence) : Routine :=
  { routine with trace := routine.trace ++ [(routine.now, occurrence)] }

/-- The routine after an action. -/
def act (kind : WorkKind) (pause : Nat) (routine : Routine) : Action → Routine
  | .pass amount => { routine with now := routine.now + amount }
  | .call =>
    match routine.calledAt, routine.stage.call? kind with
    | none, some call => { routine.see (.called call) with calledAt := some routine.now }
    | _, _ => routine
  | .take tracker input =>
    match step kind tracker routine.stage input with
    | some (stage, _) =>
      if routine.admits kind pause input then
        { routine.see (.took input) with stage, calledAt := none }
      else routine
    | none => routine

/-- The routine after a list of actions. -/
def run (kind : WorkKind) (pause : Nat) (first : Option PodPage) (actions : List Action) :
    Routine :=
  actions.foldl (act kind pause) (start kind first)

variable {kind : WorkKind} {pause : Nat} {routine : Routine}

/-- Time passes or nothing happens, a call is made, or an input brings the next stage. -/
theorem act_cases (kind : WorkKind) (pause : Nat) (routine : Routine) (action : Action) :
    (∃ now, routine.act kind pause action = { routine with now }) ∨
    (∃ call, routine.calledAt = none ∧ routine.stage.call? kind = some call ∧
      routine.act kind pause action =
        { routine.see (.called call) with calledAt := some routine.now }) ∨
    ∃ input later, Move routine.stage input later ∧ routine.admits kind pause input ∧
      routine.act kind pause action =
        { routine.see (.took input) with stage := later, calledAt := none } := by
  cases action with
  | pass amount => exact .inl ⟨_, rfl⟩
  | call =>
    simp only [act]
    split
    case h_1 call uncalled made => exact .inr (.inl ⟨call, uncalled, made, rfl⟩)
    case h_2 => exact .inl ⟨routine.now, rfl⟩
  | take tracker input =>
    simp only [act]
    split
    case h_1 later effect stepped =>
      split
      case isTrue admitted => exact .inr (.inr ⟨input, later, .of_step stepped, admitted, rfl⟩)
      case isFalse => exact .inl ⟨routine.now, rfl⟩
    case h_2 => exact .inl ⟨routine.now, rfl⟩

/-! ## What a stage knows of the trace -/

/-- The trace ends with a rest that is over. -/
def EndsRested (pause : Nat) (trace : Trace) : Prop :=
  ∃ earlier rest, trace = earlier ++ rest ∧ Trace.IsRest pause rest

/-- Somewhere in the trace there is a rest that is over, and no listing before it. -/
def HasRested (pause : Nat) (trace : Trace) : Prop :=
  ∃ earlier rest later, trace = earlier ++ rest ++ later ∧ Trace.IsRest pause rest ∧
    Trace.pages earlier = []

/-- There is exactly one listing since the last watch, and the version is taken from it; and if
there is a last watch, a rest came between the two. -/
def IsFresh (pause : Nat) (trace : Trace) (version : String) : Prop :=
  ∃ page, trace.sinceWatch.pages = [page] ∧ version = versionOf page ∧
    (trace.hasWatch → HasRested pause trace.sinceWatch)

/-- What the call of a stage has to come after. -/
def IsDue (kind : WorkKind) (pause : Nat) (trace : Trace) : Call → Prop
  | .list selector => selector = kind.selector ∧
    (trace.hasWatch ∨ trace.hasFailedListing → EndsRested pause trace)
  | .watch selector version => selector = kind.selector ∧ IsFresh pause trace version
  | .rest => True

/-- What is known of the trace at a stage, the call of which may have been made already. -/
def Knows (pause : Nat) (trace : Trace) : Stage → Option Nat → Prop
  | .idle none, _ => trace = []
  | .idle (some version), _ => IsFresh pause trace version ∧ trace.hasWatch = false ∧
    trace.hasFailedListing = false
  | .listing, none => trace.sinceWatch.pages = [] ∧
    (trace.hasWatch ∨ trace.hasFailedListing → EndsRested pause trace)
  | .listing, some _ => trace.sinceWatch.pages = [] ∧
    (trace.hasWatch → HasRested pause trace.sinceWatch)
  | .opening version, none => IsFresh pause trace version
  | .opening _, some _ => trace.sinceWatch.pages = []
  | .watching, _ => trace.sinceWatch.pages = []
  | .resting, none => trace.sinceWatch.pages = []
  | .resting, some start => trace.sinceWatch.pages = [] ∧
    ∃ earlier, trace = earlier ++ [(start, .called .rest)]
  | .stopped, _ => True

variable {trace : Trace} {version : String} {input : Input}

theorem EndsRested.hasRested (ends : EndsRested pause trace)
    (unlisted : trace.sinceWatch.pages = []) : HasRested pause trace.sinceWatch := by
  obtain ⟨earlier, rest, rfl, isRest⟩ := ends
  obtain ⟨start, stop, rfl, long⟩ := isRest
  have since : Trace.sinceWatch (earlier ++ [(start, .called .rest), (stop, .took .rested)]) =
      Trace.sinceWatch earlier ++ [(start, .called .rest), (stop, .took .rested)] := by
    rw [List.append_cons, Trace.sinceWatch_snoc, Trace.sinceWatch_snoc]
    simp [Occurrence.isWatch]
  rw [since] at unlisted ⊢
  refine ⟨earlier.sinceWatch, _, [], (List.append_nil _).symm, ⟨start, stop, rfl, long⟩, ?_⟩
  exact (List.append_eq_nil_iff.1 ((List.filterMap_append ..).symm.trans unlisted)).1

theorem HasRested.snoc (rested : HasRested pause trace) (entry : Nat × Occurrence) :
    HasRested pause (trace ++ [entry]) := by
  obtain ⟨earlier, rest, later, rfl, isRest, unlisted⟩ := rested
  exact ⟨earlier, rest, later ++ [entry], List.append_assoc .., isRest, unlisted⟩

/-- What is neither a watch nor a listing leaves the last listing as fresh as it was. -/
theorem IsFresh.snoc (fresh : IsFresh pause trace version) {occurrence : Occurrence}
    (noWatch : occurrence.isWatch = false) (noPage : occurrence.page? = none) (time : Nat) :
    IsFresh pause (trace ++ [(time, occurrence)]) version := by
  obtain ⟨page, pages, same, rested⟩ := fresh
  refine ⟨page, ?_, same, fun watched => ?_⟩
  · simp [Trace.sinceWatch_snoc, Trace.pages_snoc, noWatch, noPage, pages]
  · rw [Trace.hasWatch_snoc, noWatch, Bool.or_false] at watched
    simpa [Trace.sinceWatch_snoc, noWatch] using (rested watched).snoc (time, occurrence)

/-- A call that is made is due, and the stage knows that it is made. -/
theorem Knows.call {stage : Stage} {call : Call} (knows : Knows pause trace stage none)
    (made : stage.call? kind = some call) (now : Nat) :
    IsDue kind pause trace call ∧
      Knows pause (trace ++ [(now, .called call)]) stage (some now) := by
  cases stage with
  | listing =>
    cases made
    obtain ⟨unlisted, ends⟩ := knows
    refine ⟨⟨rfl, ends⟩, ?_, fun watched => ?_⟩
    · simpa [Trace.sinceWatch_snoc, Trace.pages_snoc, Occurrence.isWatch, Occurrence.page?] using
        unlisted
    · rw [Trace.hasWatch_snoc] at watched
      have before : trace.hasWatch := by simpa [Occurrence.isWatch] using watched
      have rested := (ends (.inl before)).hasRested unlisted
      simpa [Trace.sinceWatch_snoc, Occurrence.isWatch] using rested.snoc _
  | opening version =>
    cases made
    refine ⟨⟨rfl, knows⟩, ?_⟩
    simp [Knows, Trace.sinceWatch_snoc, Occurrence.isWatch, Trace.pages]
  | resting =>
    cases made
    have unlisted : trace.sinceWatch.pages = [] := knows
    refine ⟨trivial, ?_, trace, rfl⟩
    simpa [Trace.sinceWatch_snoc, Trace.pages_snoc, Occurrence.isWatch, Occurrence.page?] using
      unlisted
  | _ => cases made

/-- What is neither a watch nor a listing leaves it so that nothing is listed since the watch. -/
theorem unlisted_snoc (unlisted : trace.sinceWatch.pages = []) {occurrence : Occurrence}
    (noWatch : occurrence.isWatch = false) (noPage : occurrence.page? = none) (time : Nat) :
    (Trace.sinceWatch (trace ++ [(time, occurrence)])).pages = [] := by
  simp [Trace.sinceWatch_snoc, Trace.pages_snoc, noWatch, noPage, unlisted]

/-- The reply to a call comes after the call. -/
theorem exists_calledAt (admitted : routine.admits kind pause input) {call : Call}
    (made : routine.stage.call? kind = some call) (isReply : input ≠ .cancelled) :
    ∃ start, routine.calledAt = some start := by
  cases called : routine.calledAt with
  | none => cases input <;> simp [admits, made, called] at admitted isReply
  | some start => exact ⟨start, rfl⟩

/-- An input brings a stage that knows of it. -/
theorem Knows.take {stage later : Stage} {calledAt : Option Nat}
    (knows : Knows pause trace stage calledAt) (move : Move stage input later)
    {now : Nat} (admitted : admits kind pause ⟨stage, calledAt, now, trace⟩ input) :
    Knows pause (trace ++ [(now, .took input)]) later none := by
  cases move with
  | began =>
    have empty : trace = [] := knows
    subst empty
    refine ⟨rfl, fun before => ?_⟩
    simp [Trace.hasWatch, Trace.hasFailedListing, Occurrence.isWatch, Occurrence.isFailedListing]
      at before
  | beganFrom version =>
    obtain ⟨fresh, _⟩ := knows
    exact fresh.snoc rfl rfl now
  | listed page =>
    obtain ⟨start, rfl⟩ := exists_calledAt admitted rfl nofun
    obtain ⟨unlisted, rested⟩ := knows
    refine ⟨page, ?_, rfl, fun watched => ?_⟩
    · simp [Trace.sinceWatch_snoc, Trace.pages_snoc, Occurrence.isWatch, Occurrence.page?,
        unlisted]
    · rw [Trace.hasWatch_snoc] at watched
      have before : trace.hasWatch := by simpa [Occurrence.isWatch] using watched
      simpa [Trace.sinceWatch_snoc, Occurrence.isWatch] using (rested before).snoc _
  | unlisted fault =>
    obtain ⟨start, rfl⟩ := exists_calledAt admitted rfl nofun
    exact unlisted_snoc knows.1 rfl rfl now
  | opened version =>
    obtain ⟨start, rfl⟩ := exists_calledAt admitted rfl nofun
    exact unlisted_snoc knows rfl rfl now
  | unopened version fault =>
    obtain ⟨start, rfl⟩ := exists_calledAt admitted rfl nofun
    exact unlisted_snoc knows rfl rfl now
  | told event => exact unlisted_snoc knows rfl rfl now
  | failed fault => exact unlisted_snoc knows rfl rfl now
  | ended => exact unlisted_snoc knows rfl rfl now
  | rested =>
    obtain ⟨start, rfl⟩ := exists_calledAt admitted rfl nofun
    obtain ⟨unlisted, earlier, rfl⟩ := knows
    have long : start + pause ≤ now := by simpa [admits] using admitted
    refine ⟨unlisted_snoc unlisted rfl rfl now, fun _ => ?_⟩
    exact ⟨earlier, _, List.append_assoc .., start, now, rfl, long⟩
  | cancelled => trivial

/-! ## Runs -/

/-- Every call in the trace was due. -/
def AllDue (kind : WorkKind) (pause : Nat) (trace : Trace) : Prop :=
  ∀ before time call after, trace = before ++ (time, .called call) :: after →
    IsDue kind pause before call

theorem AllDue.snoc (due : AllDue kind pause trace) (occurrence : Occurrence)
    (new : ∀ call, occurrence = .called call → IsDue kind pause trace call) (time : Nat) :
    AllDue kind pause (trace ++ [(time, occurrence)]) := by
  intro before time' call after split
  rcases List.eq_nil_or_concat' after with rfl | ⟨earlier, last, rfl⟩
  · obtain ⟨rfl, same⟩ := List.append_inj' split rfl
    cases same
    exact new call rfl
  · rw [← List.cons_append, ← List.append_assoc] at split
    exact due before time' call earlier (List.append_inj' split rfl).1

theorem AllDue.initial {entry : Nat × Occurrence} (due : AllDue kind pause (trace ++ [entry])) :
    AllDue kind pause trace := by
  rintro before time call after rfl
  exact due before time call (after ++ [entry]) (by simp)

/-- Each watch uses up a listing. -/
theorem AllDue.sublist (due : AllDue kind pause trace) :
    trace.versions.Sublist (trace.upToWatch.pages.map versionOf) := by
  induction trace using List.reverseRecOn with
  | nil => exact .slnil
  | append_singleton trace entry ih =>
    obtain ⟨time, occurrence⟩ := entry
    have earlier := ih due.initial
    rw [Trace.versions_snoc, Trace.upToWatch_snoc]
    rcases occurrence.isWatch_cases with ⟨selector, version, rfl⟩ | ⟨noWatch, noVersion⟩
    · obtain ⟨-, page, pages, rfl, -⟩ := due trace time _ [] rfl
      have all : Trace.pages (trace ++ [(time, .called (.watch selector (versionOf page)))]) =
          (Trace.upToWatch trace).pages ++ [page] := by
        rw [Trace.pages_snoc, Trace.pages_eq, pages]
        simp [Occurrence.page?]
      have isWatch : (Occurrence.called (.watch selector (versionOf page))).isWatch = true := rfl
      rw [if_pos isWatch, all, List.map_append]
      exact earlier.append (.refl _)
    · rw [noVersion, noWatch]
      simpa using earlier

/-- What a routine keeps: every call was due, and the stage knows of the trace. -/
structure IsKept (kind : WorkKind) (pause : Nat) (routine : Routine) : Prop where
  due : AllDue kind pause routine.trace
  knows : Knows pause routine.trace routine.stage routine.calledAt

theorem IsKept.start (kind : WorkKind) (pause : Nat) (first : Option PodPage) :
    (start kind first).IsKept kind pause := by
  cases first with
  | none =>
    refine ⟨fun before time call after split => ?_, rfl⟩
    cases before <;> cases split
  | some page =>
    have none : AllDue kind pause [] := fun before _ _ _ split => by cases before <;> cases split
    have one : AllDue kind pause [(0, .called (.list kind.selector))] := by
      refine none.snoc _ (fun call same => ?_) 0
      cases same
      exact ⟨rfl, by simp [Trace.hasWatch, Trace.hasFailedListing]⟩
    have two : AllDue kind pause
        [(0, .called (.list kind.selector)), (0, .took (.listed (.ok page)))] :=
      one.snoc (.took _) nofun 0
    exact ⟨two, ⟨page, rfl, rfl, nofun⟩, rfl, rfl⟩

/-- **An action keeps the routine.** -/
theorem IsKept.act (kept : routine.IsKept kind pause) (action : Action) :
    (routine.act kind pause action).IsKept kind pause := by
  rcases act_cases kind pause routine action with
    ⟨now, same⟩ | ⟨call, uncalled, made, called⟩ | ⟨input, later, move, admitted, took⟩
  · rw [same]
    exact ⟨kept.due, kept.knows⟩
  · have knows := kept.knows
    rw [uncalled] at knows
    obtain ⟨due, knowsThen⟩ := knows.call made routine.now
    rw [called]
    refine ⟨kept.due.snoc _ (fun other same => ?_) routine.now, knowsThen⟩
    cases same
    exact due
  · have due : AllDue kind pause (routine.trace ++ [(routine.now, .took input)]) :=
      kept.due.snoc (.took input) nofun routine.now
    rw [took]
    exact ⟨due, kept.knows.take move admitted⟩

theorem isKept_run (kind : WorkKind) (pause : Nat) (first : Option PodPage)
    (actions : List Action) : (run kind pause first actions).IsKept kind pause := by
  induction actions using List.reverseRecOn with
  | nil => exact .start kind pause first
  | append_singleton earlier action ih =>
    rw [run, List.foldl_append, List.foldl_cons, List.foldl_nil]
    exact ih.act action

/-- **Every watch follows a listing of its own.** Whether or not there was a first listing, and
whatever happens, every watch is called for with the selector of the kind and the version of the one
listing that has succeeded since the watch before; if there is such a watch, then there was a full
rest between it and that listing. Every listing is called for with the same selector, and right
after a full rest if there was a watch before or a listing that failed. The versions of the watches
are those of as many different listings, in their order. -/
theorem watches_follow_listings (kind : WorkKind) (pause : Nat) (first : Option PodPage)
    (actions : List Action) :
    let trace := (run kind pause first actions).trace
    (∀ (before : Trace) time selector version after,
      trace = before ++ (time, .called (.watch selector version)) :: after →
      selector = kind.selector ∧
      ∃ page, before.sinceWatch.pages = [page] ∧ version = versionOf page ∧
        (before.hasWatch → ∃ earlier : Trace, ∃ start stop later, before.sinceWatch =
          earlier ++ [(start, .called .rest), (stop, .took .rested)] ++ later ∧
          start + pause ≤ stop ∧ earlier.pages = [])) ∧
    (∀ (before : Trace) time selector after,
      trace = before ++ (time, .called (.list selector)) :: after →
      selector = kind.selector ∧
      (before.hasWatch ∨ before.hasFailedListing → ∃ earlier start stop,
        before = earlier ++ [(start, .called .rest), (stop, .took .rested)] ∧
        start + pause ≤ stop)) ∧
    trace.versions.Sublist (trace.pages.map versionOf) := by
  intro trace
  have due : AllDue kind pause trace := (isKept_run kind pause first actions).due
  refine ⟨?_, ?_, ?_⟩
  · intro before time selector version after split
    obtain ⟨same, page, pages, fromPage, rested⟩ := due _ _ _ _ split
    refine ⟨same, page, pages, fromPage, fun watched => ?_⟩
    obtain ⟨earlier, rest, later, shape, ⟨start, stop, rfl, long⟩, unlisted⟩ := rested watched
    exact ⟨earlier, start, stop, later, shape, long, unlisted⟩
  · intro before time selector after split
    obtain ⟨same, ends⟩ := due _ _ _ _ split
    refine ⟨same, fun again => ?_⟩
    obtain ⟨earlier, rest, rfl, start, stop, rfl, long⟩ := ends again
    exact ⟨earlier, start, stop, rfl, long⟩
  · rw [Trace.pages_eq, List.map_append]
    exact due.sublist.trans (List.sublist_append_left ..)

/-- What happens to a worker synchronizer whose first watch expires: it rests, lists in vain, rests
again, lists again and watches. Its first attempt to end the rest comes too early. -/
def expiry : List Action :=
  let take := Action.take .fresh
  [take .began, .call, take (.opened (.ok ())), take (.item (.error (.watch 410 "too old"))),
    .call, .pass 4, take .rested, .pass 1, take .rested,
    .call, take (.listed (.error (.unreachable "no route"))), .call, .pass 5, take .rested,
    .call, take (.listed (.ok ⟨[], some "2", none⟩)), .call]

/-- The trace of that synchronizer. -/
def expiryTrace : Trace := (run .worker 5 (some ⟨[], some "1", none⟩) expiry).trace

theorem expired_watch_begins_anew :
    expiryTrace = expiryTrace.take 14 ++ [(10, .called (.watch WorkKind.worker.selector "2"))] ∧
      Trace.hasWatch (expiryTrace.take 14) ∧
      ∃ page, Trace.pages (Trace.sinceWatch (expiryTrace.take 14)) = [page] ∧
        "2" = versionOf page := by
  obtain ⟨watches, -, -⟩ := watches_follow_listings .worker 5 (some ⟨[], some "1", none⟩) expiry
  obtain ⟨-, page, pages, version, -⟩ := watches (expiryTrace.take 14) 10 _ "2" [] rfl
  exact ⟨rfl, rfl, page, pages, version⟩

end Routine

end Turnstile.Synchronizer

/-! ## In the simulation -/

namespace Turnstile.Simulation.World

open Synchronizer

variable (world : World) (number : Nat) (task : Task) (synchronizer : SynchronizerTask)

section Frame

@[simp] theorem log_beginWait (body : Body) : (world.beginWait number body).log = world.log := by
  unfold beginWait
  split <;> rfl

@[simp] theorem log_signal (signal : Signal) :
    (world.signal number signal).log = world.log := by
  unfold World.signal
  split <;> rfl

@[simp] theorem log_signalAtOnce (signal : Signal) :
    (world.signalAtOnce number signal).log = world.log := by
  unfold signalAtOnce
  split <;> rfl

@[simp] theorem log_signalAfter (delay : Nat) (signal : Signal) :
    (world.signalAfter number delay signal).log = world.log := by
  unfold signalAfter
  split
  · exact world.log_signalAtOnce number signal
  · split <;> rfl

@[simp] theorem log_awaitInput (delay : Nat) (input : Input) :
    (world.awaitInput number synchronizer delay input).log = world.log := by
  simp [awaitInput]

@[simp] theorem log_takeItem : (world.takeItem number synchronizer).log = world.log := by
  unfold takeItem
  split
  · split
    · simp
    · split <;> simp
  · simp

@[simp] theorem log_wakeSchedulers : (world.wakeSchedulers number).log = world.log := by
  unfold wakeSchedulers
  dsimp only
  generalize world.tasks.bindings.filter _ = schedulers
  induction schedulers generalizing world with
  | nil => rfl
  | cons binding schedulers ih => exact (ih _).trans (log_signal ..)

@[simp] theorem log_finish (outcome : Option Scheduler.Outcome) :
    (world.finish number outcome).log = world.log := by
  unfold finish
  split
  · rfl
  · dsimp only
    split <;> simp

end Frame

/-- The note of a call; a rest is not noted. -/
def noticeOf? (kind : WorkKind) : Call → Option Notice
  | .list _ => some (.listed kind)
  | .watch _ version => some (.watched kind version)
  | .rest => none

/-- **A synchronizer that begins a stage makes the call of the stage**, and no other, unless it is
cancelled. -/
theorem log_enterSynchronizer :
    (world.enterSynchronizer number task synchronizer).log =
      (if synchronizer.stage.isCancellable && world.isCancelled task.scope then []
        else (((synchronizer.stage.call? synchronizer.kind).bind
          (noticeOf? synchronizer.kind)).map (world.now, ·)).toList) ++ world.log := by
  unfold enterSynchronizer
  dsimp only
  split
  · simp
  · cases stage : synchronizer.stage with
    | idle version => rfl
    | listing => simp [listPods, note, Stage.call?, noticeOf?]
    | opening version =>
      dsimp only
      split <;> simp [note, Stage.call?, noticeOf?]
    | watching => simp [Stage.call?]
    | resting => simp [Stage.call?, noticeOf?]
    | stopped => simp [Stage.call?]

end Turnstile.Simulation.World
