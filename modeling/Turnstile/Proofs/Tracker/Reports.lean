import Turnstile.Proofs.Tracker.Guards

/-!
# What is told to the tracker

Everything that is told to the tracker is one of a few reports. A report is about one kind; what is
counted of the other kind stays as it is (`Tracker.counted_take_of_ne`), and no pod is counted
twice, whatever was told (`Tracker.nodup_counted_takeAll`).

The guards of the other kind stay as they are too, but for one case: a report that a pod is gone
releases its guard also if the other kind holds it (`Tracker.other_kind_loses_only_forgotten_pods`,
`Tracker.guard_lost_to_other_kind`). Listings do distinguish the kinds here.
-/

set_option autoImplicit false

namespace Turnstile.Tracker

/-- What is told to the tracker, or asked of it. -/
inductive Report where
  | observe (kind : WorkKind) (pod : Pod)
  | forget (kind : WorkKind) (pod : PodName)
  | replace (kind : WorkKind) (pods : List Pod)
  /-- Somebody claims the guard of a pod. -/
  | claim (kind : WorkKind) (pod : PodName)

/-- The kind that a report is about. -/
def Report.kind : Report → WorkKind
  | observe kind _ => kind
  | forget kind _ => kind
  | replace kind _ => kind
  | claim kind _ => kind

/-- The tracker after a report. -/
def take (tracker : Tracker) : Report → Tracker
  | .observe kind pod => tracker.observe kind pod
  | .forget kind pod => tracker.forget kind pod
  | .replace kind pods => tracker.replace kind pods
  | .claim kind pod => (tracker.claim? kind pod).getD tracker

/-- The tracker after some reports. -/
def takeAll (tracker : Tracker) (reports : List Report) : Tracker := reports.foldl take tracker

variable {tracker : Tracker} {kind : WorkKind}

@[simp] theorem counted_claim (tracker : Tracker) (kind : WorkKind) (pod : PodName)
    (other : WorkKind) :
    (tracker.take (.claim kind pod)).counted other = tracker.counted other := by
  change ((tracker.claim? kind pod).getD tracker).counted other = _
  unfold claim?
  split <;> simp

theorem counted_take_of_ne (tracker : Tracker) {report : Report} (different : kind ≠ report.kind) :
    (tracker.take report).counted kind = tracker.counted kind := by
  cases report with
  | observe other pod => exact counted_setCounted_of_ne tracker _ different
  | forget other pod =>
    exact (counted_guards _ _ _).trans (counted_setCounted_of_ne tracker _ different)
  | replace other pods =>
    exact (counted_guards _ _ _).trans (counted_setCounted_of_ne tracker _ different)
  | claim other pod => exact counted_claim tracker other pod kind

theorem nodup_counted_take (once : (tracker.counted kind).Nodup) (report : Report) :
    ((tracker.take report).counted kind).Nodup := by
  by_cases same : kind = report.kind
  · subst same
    cases report with
    | observe other pod => exact nodup_counted_observe once pod
    | forget other pod => exact nodup_counted_forget once pod
    | replace other pods => exact nodup_counted_replace tracker other pods
    | claim other pod =>
      rw [counted_claim]
      exact once
  · rw [counted_take_of_ne tracker same]
    exact once

theorem nodup_counted_takeAll (reports : List Report) (kind : WorkKind) :
    ((fresh.takeAll reports).counted kind).Nodup := by
  suffices kept : ∀ tracker : Tracker, (tracker.counted kind).Nodup →
      ((tracker.takeAll reports).counted kind).Nodup by
    refine kept fresh ?_
    cases kind <;> exact .nil
  induction reports with
  | nil => exact fun _ once => once
  | cons report reports ih => exact fun tracker once => ih _ (nodup_counted_take once report)

/-! ## Guards of the other kind -/

theorem nodup_guards_take (distinct : tracker.guards.keys.Nodup) (report : Report) :
    (tracker.take report).guards.keys.Nodup := by
  cases report with
  | observe kind pod =>
    rw [take, observe, guards_setCounted]
    exact distinct
  | forget kind pod => exact nodup_guards_forget distinct kind pod
  | replace kind pods => exact nodup_guards_replace distinct kind pods
  | claim kind pod =>
    rw [take, claim?]
    split_ifs
    · exact distinct
    · exact Table.nodup_keys_set distinct pod kind

theorem nodup_guards_takeAll (distinct : tracker.guards.keys.Nodup) (reports : List Report) :
    (tracker.takeAll reports).guards.keys.Nodup := by
  induction reports generalizing tracker with
  | nil => exact distinct
  | cons report reports ih => exact ih (nodup_guards_take distinct report)

/-- A report about one kind takes the guard of a pod from the other only if it says that the pod is
gone, and gives it none. -/
theorem holder?_take_of_ne (distinct : tracker.guards.keys.Nodup) {report : Report}
    (different : kind ≠ report.kind) (name : PodName) :
    (tracker.take report).holder? name = some kind ↔
      tracker.holder? name = some kind ∧ report ≠ .forget report.kind name := by
  cases report with
  | observe other pod =>
    have same : (tracker.take (.observe other pod)).holder? name = tracker.holder? name :=
      congrArg (·.get? name) (guards_setCounted _ _ _)
    simp [same]
  | forget other pod =>
    rw [take, holder?_forget]
    by_cases same : pod = name
    · simp [same, Report.kind]
    · simp [same]
  | replace other pods =>
    rw [take, holder?_replace distinct, Option.filter_eq_some_iff]
    have apart : kind ≠ other := different
    simp [apart]
  | claim other pod =>
    have apart : other ≠ kind := different.symm
    rw [take, claim?]
    split_ifs with deleting
    · simp
    · rw [Option.getD_some, holder?_set]
      by_cases same : pod = name
      · have free : tracker.holder? name = none := by simpa [isDeleting_eq, same] using deleting
        simp [same, apart, free]
      · simp [same]

/-- **The other kind loses only what is forgotten.** Reports about one kind, any number of them and
whatever was told before, leave what is counted of the other kind as it is, and the guards that the
other kind holds as well, except those of pods that one of the reports says are gone. -/
theorem other_kind_loses_only_forgotten_pods (earlier reports : List Report) (other : WorkKind)
    (apart : ∀ report ∈ reports, report.kind ≠ other) :
    let before := fresh.takeAll earlier
    let after := before.takeAll reports
    after.counted other = before.counted other ∧
      ∀ name, after.holder? name = some other ↔
        before.holder? name = some other ∧ ∀ kind, .forget kind name ∉ reports := by
  suffices kept : ∀ before : Tracker, before.guards.keys.Nodup →
      (before.takeAll reports).counted other = before.counted other ∧
        ∀ name, (before.takeAll reports).holder? name = some other ↔
          before.holder? name = some other ∧ ∀ kind, .forget kind name ∉ reports by
    have distinct : fresh.guards.keys.Nodup := List.nodup_nil
    exact kept _ (nodup_guards_takeAll distinct earlier)
  induction reports with
  | nil => exact fun before _ => ⟨rfl, fun name => by simp [takeAll]⟩
  | cons report reports ih =>
    intro before distinct
    have here : other ≠ report.kind := (apart report List.mem_cons_self).symm
    obtain ⟨counted, holders⟩ := ih
      (fun later member => apart later (List.mem_cons_of_mem _ member))
      (before.take report) (nodup_guards_take distinct report)
    refine ⟨counted.trans (counted_take_of_ne before here), fun name => ?_⟩
    refine (holders name).trans ?_
    rw [holder?_take_of_ne distinct here, and_assoc, and_congr_right_iff]
    intro _
    have told : report ≠ .forget report.kind name ↔ ∀ kind, report ≠ .forget kind name := by
      constructor
      · rintro notHere kind rfl
        exact notHere rfl
      · exact fun nowhere => nowhere report.kind
    simp only [told, List.mem_cons, not_or, forall_and, ne_eq, eq_comm]

/-- Two workers are going to be deleted; then the jobs are listed, among them one that has the name
of the first worker, and that job is reported gone. -/
theorem second_worker_keeps_its_guard :
    let first : PodName := ⟨"brigade", "w1"⟩
    let second : PodName := ⟨"brigade", "w2"⟩
    let earlier : List Report := [.claim .worker first, .claim .worker second]
    let job : Pod := ⟨first, none, none, .empty, .running, none, []⟩
    let reports : List Report := [.replace .job [job], .forget .job first]
    (∀ report ∈ reports, report.kind ≠ .worker) ∧
      ((fresh.takeAll earlier).takeAll reports).counted .worker = [] ∧
      ((fresh.takeAll earlier).takeAll reports).holder? second = some .worker ∧
      ((fresh.takeAll earlier).takeAll reports).holder? first ≠ some .worker := by
  intro first second earlier job reports
  have apart : ∀ report ∈ reports, report.kind ≠ .worker := by
    intro report member
    simp only [reports, List.mem_cons, List.not_mem_nil, or_false] at member
    rcases member with rfl | rfl <;> nofun
  obtain ⟨counted, holders⟩ := other_kind_loses_only_forgotten_pods earlier reports .worker apart
  refine ⟨apart, counted, (holders second).2 ⟨rfl, ?_⟩, fun held => ?_⟩
  · simp [reports, first, second]
  · exact ((holders first).1 held).2 .job (.tail _ (.head _))

/-- A report about jobs takes the guard from a worker. -/
theorem guard_lost_to_other_kind :
    let name : PodName := ⟨"brigade", "w1"⟩
    let before := fresh.takeAll [.claim .worker name]
    before.holder? name = some .worker ∧
      (before.take (.forget .job name)).holder? name = none ∧
      (before.take (.forget .job name)).isDeleting name = false := by
  decide

end Turnstile.Tracker
