import Mathlib.Data.List.Perm.Subperm
import Mathlib.Logic.Relation
import Turnstile.Proofs.Capacity
import Turnstile.Proofs.Synchronizer.View
import Turnstile.Proofs.Tracker.Reports

/-!
# The ceiling is kept

At the **entrance** of a kind, those who have work to start wait for an admission, a capacity
manager ticks, and the tracker is told about pods. What is assumed of the pods is this: one comes to
be counted only as the pod of an admission, each admission brings one pod at most, and that before
the next tick, if at all (`Entrance.Step`). Other than that, everything comes in any order: pods
finish, are deleted, are listed again or not, and those who wait come and go.

Then the count never rises above the ceiling, or above what it was at the start, whichever is
greater, and once it is at the ceiling or below it stays so (`Entrance.count_le_max`). For a tick
delivers one admission at most, below the ceiling only, and no admission is left over for later: in
between two ticks, all that are counted are among those that were counted at the first of them, and
the one pod of its admission.
-/

set_option autoImplicit false

namespace Turnstile

/-- The tracker and the line for admission of a kind. -/
structure Entrance (α : Type) where
  tracker : Tracker
  line : Admission α
  /-- How many admissions were delivered. -/
  delivered : Nat
  /-- The number of the admission that the last tick has delivered, unless it has delivered none.
  They are numbered from zero. -/
  latest : Option Nat

namespace Entrance

open Synchronizer.Follower (sample)

variable {α : Type} {kind : WorkKind} {ceiling bound : Nat} {podOf : Nat → Option PodName}

/-- How many pods of a kind are counted. -/
def count (entrance : Entrance α) (kind : WorkKind) : Nat := entrance.tracker.count kind

/-- The entrance when nothing has been admitted yet. -/
def start (tracker : Tracker) (line : Admission α) : Entrance α := ⟨tracker, line, 0, none⟩

/-- The tick of a capacity manager. -/
def tick (kind : WorkKind) (ceiling : Nat) (entrance : Entrance α) : Entrance α :=
  let (isDelivered, line) := entrance.tracker.offerBelow kind ceiling entrance.line
  if isDelivered then
    { entrance with line, delivered := entrance.delivered + 1, latest := some entrance.delivered }
  else { entrance with line, latest := none }

/-! ## Room for one more -/

/-- The count is bounded; and if the last tick has delivered an admission, then there is room for
its pod: all others that are counted were there at the tick, and were fewer than the ceiling. -/
structure IsBounded (kind : WorkKind) (ceiling : Nat) (podOf : Nat → Option PodName) (bound : Nat)
    (entrance : Entrance α) : Prop where
  once : (entrance.tracker.counted kind).Nodup
  none : entrance.latest = none → entrance.count kind ≤ bound
  room : ∀ number, entrance.latest = some number → ∃ base : List PodName, base.length < ceiling ∧
    ∀ name ∈ entrance.tracker.counted kind, name ∈ base ∨ podOf number = some name

namespace IsBounded

variable {entrance later : Entrance α}

/-- With the pod of the last admission the ceiling is reached at most. -/
theorem count_le (bounded : entrance.IsBounded kind ceiling podOf bound) (high : ceiling ≤ bound) :
    entrance.count kind ≤ bound := by
  cases latest : entrance.latest with
  | none => exact bounded.none latest
  | some number =>
    obtain ⟨base, below, among⟩ := bounded.room number latest
    have subset : entrance.tracker.counted kind ⊆ (podOf number).toList ++ base := by
      intro name member
      rcases among name member with old | new
      · exact List.mem_append_right _ old
      · exact List.mem_append_left _ (by simp [new])
    have single : (podOf number).toList.length ≤ 1 := by
      cases podOf number <;> simp
    calc entrance.count kind
      _ ≤ ((podOf number).toList ++ base).length := (bounded.once.subperm subset).length_le
      _ ≤ 1 + base.length := by
        rw [List.length_append]
        exact Nat.add_le_add_right single _
      _ ≤ bound := by omega

/-- Whatever the bound was, at the ceiling or below the ceiling is one. -/
theorem lower (bounded : entrance.IsBounded kind ceiling podOf bound)
    (low : entrance.count kind ≤ ceiling) :
    entrance.IsBounded kind ceiling podOf ceiling :=
  ⟨bounded.once, fun _ => low, bounded.room⟩

/-- A tick delivers an admission only if there is room for its pod. -/
theorem tick (bounded : entrance.IsBounded kind ceiling podOf bound) (high : ceiling ≤ bound) :
    (entrance.tick kind ceiling).IsBounded kind ceiling podOf bound := by
  rcases entrance.tracker.offerBelow_cases kind ceiling entrance.line with
    ⟨line, id, below, offered⟩ | ⟨line, offered⟩
  · rw [Entrance.tick, offered]
    refine ⟨bounded.once, nofun, fun number latest => ?_⟩
    exact ⟨entrance.tracker.counted kind, below, fun name member => .inl member⟩
  · rw [Entrance.tick, offered]
    exact ⟨bounded.once, fun _ => bounded.count_le high, nofun⟩

/-- What is no tick changes what is counted by the pod of the last admission at most. -/
theorem of_latest_eq (bounded : entrance.IsBounded kind ceiling podOf bound)
    (once : (later.tracker.counted kind).Nodup) (same : later.latest = entrance.latest)
    (brought : ∀ name ∈ later.tracker.counted kind,
      name ∈ entrance.tracker.counted kind ∨ entrance.latest.bind podOf = some name) :
    later.IsBounded kind ceiling podOf bound := by
  refine ⟨once, fun latest => ?_, fun number latest => ?_⟩
  · rw [same] at latest
    have subset : later.tracker.counted kind ⊆ entrance.tracker.counted kind := by
      intro name member
      simpa [latest] using brought name member
    exact Nat.le_trans (once.subperm subset).length_le (bounded.none latest)
  · rw [same] at latest
    obtain ⟨base, below, among⟩ := bounded.room number latest
    refine ⟨base, below, fun name member => ?_⟩
    rcases brought name member with old | new
    · exact among name old
    · exact .inr (by simpa [latest] using new)

end IsBounded

/-! ## What happens at an entrance -/

/-- What happens at an entrance. -/
inductive Action (α : Type) where
  | tick
  | wait (id : α)
  | leave (id : α)
  /-- Somebody takes up his admission. -/
  | takeUp (id : α)
  | report (report : Tracker.Report)

variable [DecidableEq α]

/-- The entrance of a kind after an action. -/
def act (kind : WorkKind) (ceiling : Nat) (entrance : Entrance α) : Action α → Entrance α
  | .tick => entrance.tick kind ceiling
  | .wait id => { entrance with line := entrance.line.wait id }
  | .leave id => { entrance with line := entrance.line.withdraw id }
  | .takeUp id => { entrance with line := (entrance.line.take? id).getD entrance.line }
  | .report report => { entrance with tracker := entrance.tracker.take report }

/-- Something happens by which no pod comes to be counted but the one of the admission that the
last tick has delivered. -/
def Step (kind : WorkKind) (ceiling : Nat) (podOf : Nat → Option PodName)
    (entrance later : Entrance α) : Prop :=
  ∃ action, later = entrance.act kind ceiling action ∧
    ∀ name ∈ later.tracker.counted kind,
      name ∈ entrance.tracker.counted kind ∨ entrance.latest.bind podOf = some name

/-- Such things happen one after the other. -/
def Leads (kind : WorkKind) (ceiling : Nat) (podOf : Nat → Option PodName) :
    Entrance α → Entrance α → Prop :=
  Relation.ReflTransGen (Step kind ceiling podOf)

namespace IsBounded

variable {entrance later : Entrance α}

/-- **A step keeps the bound.** -/
theorem step (bounded : entrance.IsBounded kind ceiling podOf bound) (high : ceiling ≤ bound)
    (step : Step kind ceiling podOf entrance later) :
    later.IsBounded kind ceiling podOf bound := by
  obtain ⟨action, rfl, brought⟩ := step
  cases action with
  | tick => exact bounded.tick high
  | wait id => exact bounded.of_latest_eq bounded.once rfl brought
  | leave id => exact bounded.of_latest_eq bounded.once rfl brought
  | takeUp id => exact bounded.of_latest_eq bounded.once rfl brought
  | report report =>
    exact bounded.of_latest_eq (Tracker.nodup_counted_take bounded.once report) rfl brought

theorem leads (bounded : entrance.IsBounded kind ceiling podOf bound) (high : ceiling ≤ bound)
    (leads : Leads kind ceiling podOf entrance later) :
    later.IsBounded kind ceiling podOf bound := by
  induction leads with
  | refl => exact bounded
  | tail _ step ih => exact ih.step high step

end IsBounded

/-- **The ceiling is kept.** Whatever was told to the tracker before, and whoever waits: as long as
pods come to be counted only as the pods of admissions, each before the tick after that of its
admission, the count does not rise above the ceiling and what it was at the start; and whenever it
is at the ceiling or below, it stays so from then on. -/
theorem count_le_max (reports : List Tracker.Report) (line : Admission α)
    {entrance later : Entrance α}
    (first : Leads kind ceiling podOf (start (Tracker.fresh.takeAll reports) line) entrance)
    (second : Leads kind ceiling podOf entrance later) :
    entrance.count kind ≤ max ceiling ((Tracker.fresh.takeAll reports).count kind) ∧
      (entrance.count kind ≤ ceiling → later.count kind ≤ ceiling) := by
  have initial : (start (Tracker.fresh.takeAll reports) line).IsBounded kind ceiling podOf
      (max ceiling ((Tracker.fresh.takeAll reports).count kind)) :=
    ⟨Tracker.nodup_counted_takeAll reports kind, fun _ => Nat.le_max_right _ _, nofun⟩
  have bounded := initial.leads (Nat.le_max_left _ _) first
  refine ⟨bounded.count_le (Nat.le_max_left _ _), fun low => ?_⟩
  exact ((bounded.lower low).leads (Nat.le_refl _) second).count_le (Nat.le_refl _)

/-- Of the admissions, only the second brings a pod. -/
def secondPod (number : Nat) : Option PodName :=
  if number = 1 then some ⟨"brigade", "w2"⟩ else none

/-- Two are counted of two, and the tick admits nobody. When one of them has finished, somebody is
admitted who brings no pod, so that the next tick admits another; with his pod they are two
again. -/
theorem count_le_max_two :
    let told : List Tracker.Report :=
      [.replace .worker [sample "w0" .running, sample "w1" .pending]]
    let empty : Entrance Nat := start (Tracker.fresh.takeAll told) .fresh
    let full := [.wait 1, .wait 2, .wait 3, .tick].foldl (act .worker 2) empty
    let later := [.report (.observe .worker (sample "w0" .succeeded)), .tick, .tick,
      .report (.observe .worker (sample "w2" .pending)), .tick].foldl (act .worker 2) full
    full.count .worker ≤ max 2 ((Tracker.fresh.takeAll told).count .worker) ∧
      (full.count .worker ≤ 2 → later.count .worker ≤ 2) ∧ full.delivered = 0 ∧
      later.delivered = 2 ∧ later.count .worker = 2 := by
  intro told empty full later
  have first : Leads .worker 2 secondPod empty full := by
    refine .head ⟨.wait 1, rfl, ?_⟩ (.head ⟨.wait 2, rfl, ?_⟩
      (.head ⟨.wait 3, rfl, ?_⟩ (.head ⟨.tick, rfl, ?_⟩ .refl))) <;> decide
  have second : Leads .worker 2 secondPod full later := by
    refine .head ⟨.report (.observe .worker (sample "w0" .succeeded)), rfl, ?_⟩
      (.head ⟨.tick, rfl, ?_⟩ (.head ⟨.tick, rfl, ?_⟩
      (.head ⟨.report (.observe .worker (sample "w2" .pending)), rfl, ?_⟩
      (.head ⟨.tick, rfl, ?_⟩ .refl)))) <;> decide
  have kept := count_le_max told .fresh first second
  exact ⟨kept.1, kept.2, by decide, by decide, by decide⟩

end Entrance

end Turnstile
