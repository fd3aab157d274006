import Turnstile.Capacity
import Turnstile.Proofs.Settings
import Turnstile.Time.Instant

/-!
# Deadlines beyond the clock

A capacity manager sets its first deadline one interval after it begins. Any number of seconds that
is not zero and has 64 bits is accepted as interval (`exists_interval`), but the clock counts its
seconds in 63 bits and a sign. So the deadline is within the clock only if the interval ends before
the clock does (`first_deadline_fits_iff`), and there are settings with which it is not
(`first_deadline_beyond_clock`).
-/

set_option autoImplicit false

namespace Turnstile.CapacityManager

open Settings Time

variable {environment : Environment} {settings : All}

/-- The interval of settings that are loaded, in seconds. -/
theorem exists_interval (loaded : load environment = .ok settings) :
    ∃ seconds, environment.Sets "BRIG_CAPACITY_INTERVAL_SECS" Decimal.Writes 5 seconds ∧
      0 < seconds ∧ seconds < 2 ^ 64 ∧ settings.limits.capacityInterval = seconds * 1000 := by
  obtain ⟨fine, isRead, checked⟩ := of_load loaded
  have positive : settings.limits.capacityInterval ≠ 0 :=
    Limits.check_eq_ok_iff.1 checked .capacityInterval
  -- That the number fits is known of the variable only, not of the limits.
  have isFine := fine ⟨"BRIG_CAPACITY_INTERVAL_SECS", false, .number 64⟩ (by decide)
  have sets := isRead.capacityInterval
  unfold Environment.Sets at sets ⊢
  split at sets
  case h_1 raw given =>
    obtain ⟨seconds, writes, interval⟩ := sets
    obtain ⟨value, small, writes'⟩ := isFine.2 raw given
    rw [writes'.unique writes] at small
    exact ⟨seconds, writes, by omega, small, interval⟩
  case h_2 => exact ⟨5, rfl, by decide, by decide, sets⟩

/-- **The first deadline is within the clock exactly if the interval ends before the clock.** -/
theorem first_deadline_fits_iff (loaded : load environment = .ok settings) {start current : Instant}
    {now : Nat} (shows : start.after? now = some current) :
    ∃ due seconds,
      step settings.limits.capacityInterval .idle (.began now) = some (.waiting due, false) ∧
      environment.Sets "BRIG_CAPACITY_INTERVAL_SECS" Decimal.Writes 5 seconds ∧
      0 < seconds ∧ seconds < 2 ^ 64 ∧
      ((start.after? due).isSome ↔ current.seconds + seconds < 2 ^ 63) := by
  obtain ⟨seconds, sets, positive, small, interval⟩ := exists_interval loaded
  refine ⟨now + settings.limits.capacityInterval, seconds, rfl, sets, positive, small, ?_⟩
  rw [Instant.after?_add, shows, Option.bind_some, interval, Instant.isSome_after?_iff]

/-- An hour after the clock has begun to count. -/
def anHourIn : Instant where
  seconds := 3600
  nanoseconds := 0
  start_le := by decide
  lt_end := by decide
  nanoseconds_lt := by decide

/-- The environment of a scheduler that takes its time. -/
def withInterval (seconds : String) : Environment :=
  .ofBindings [("BRIG_API_TOKEN", "secret"), ("BRIG_AMQP_USERNAME", "scheduler"),
    ("BRIG_AMQP_PASSWORD", "hunter2"), ("BRIG_CAPACITY_INTERVAL_SECS", seconds)]

theorem first_deadline_of_century_fits :
    ∃ settings current, load (withInterval "+3155760000") = .ok settings ∧
      anHourIn.after? 1500 = some current ∧
      ∃ due, step settings.limits.capacityInterval .idle (.began 1500) =
        some (.waiting due, false) ∧ (anHourIn.after? due).isSome := by
  have loaded : ∃ settings, load (withInterval "+3155760000") = .ok settings := ⟨_, rfl⟩
  obtain ⟨settings, loaded⟩ := loaded
  have shows : anHourIn.after? 1500 = some ⟨3601, 500000000, by decide, by decide, by decide⟩ := rfl
  obtain ⟨due, seconds, begins, sets, _, _, fits⟩ := first_deadline_fits_iff loaded shows
  have written : Decimal.Writes "+3155760000" seconds := sets
  have century : seconds = 3155760000 := written.unique ⟨by decide, List.all_eq_true.1 rfl, rfl⟩
  exact ⟨settings, _, loaded, shows, due, begins, fits.2 (by rw [century]; decide)⟩

/-- The longest interval that is accepted ends beyond the clock. -/
theorem first_deadline_beyond_clock :
    ∃ settings due, load (withInterval "18446744073709551615") = .ok settings ∧
      step settings.limits.capacityInterval .idle (.began 0) = some (.waiting due, false) ∧
      anHourIn.after? 0 = some anHourIn ∧ anHourIn.after? due = none :=
  ⟨_, _, rfl, rfl, rfl, rfl⟩

end Turnstile.CapacityManager
