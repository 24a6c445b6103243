import Rollout.Batch.Pool

/-!
# Whether there is a pool

What runs on workers runs on those that the system supplies. It comes to what it comes to on a pool
that is there, unless a pool is needed and refused: for more than one worker and more than one task.

## Main definitions

* `Batch.Supply.Serves` — so many workers are supplied, or no pool is needed for them
* `Batch.Supply.exhausted` — a system that supplies none

## Main results

* `Batch.Supply.run_eq_ok_iff`, `Batch.Supply.exists_run_eq` — what comes of a run on a pool
* `Batch.Supply.run_eq_error_iff` — when there is none
-/

namespace Rollout.Batch.Supply

/-- The system makes a pool of so many workers, if these are more than one. -/
def Serves (supply : Supply) (jobs : Nat) : Prop :=
  1 < jobs → ∃ schedule, supply.pool jobs = .ok schedule

/-- The system makes no pool. -/
def exhausted : Supply := ⟨fun _ => .error ⟨"Resource temporarily unavailable (os error 11)", []⟩⟩

theorem plenty_serves (jobs : Nat) : plenty.Serves jobs := fun _ => ⟨.inOrder, rfl⟩

/-- One worker at a time is served by every system. -/
theorem serves_of_le {jobs : Nat} (h : jobs ≤ 1) (supply : Supply) : supply.Serves jobs :=
  fun hmany => absurd h (Nat.not_le.mpr hmany)

variable {β : Type} {supply : Supply} {jobs tasks : Nat} {go : Schedule → Reported β}
  {value : β} {events : List Event} {e : PoolError}

theorem schedule_eq_error_iff :
    supply.schedule jobs tasks = .error e ↔
      1 < jobs ∧ 1 < tasks ∧ supply.pool jobs = .error e := by
  unfold schedule
  split
  case isTrue hfew =>
    have few : ¬ (1 < jobs ∧ 1 < tasks) := by omega
    simp [← and_assoc, few]
  case isFalse hmany =>
    have many : 1 < jobs ∧ 1 < tasks := by omega
    simp [many]

/-- Something comes of a run exactly if it comes of it on a pool with the schedule that there is. -/
theorem run_eq_ok_iff :
    supply.run jobs tasks go = ⟨.ok value, events⟩ ↔
      ∃ schedule, supply.schedule jobs tasks = .ok schedule ∧ go schedule = ⟨value, events⟩ := by
  unfold run
  cases supply.schedule jobs tasks with
  | ok schedule =>
    cases hgo : go schedule with
    | mk value' events' => simp [Reported.map, hgo]
  | error e => simp

/-- A run comes to nothing exactly if a pool is needed and refused. All that is reported then is the
start. -/
theorem run_eq_error_iff :
    supply.run jobs tasks go = ⟨.error e, events⟩ ↔
      (1 < jobs ∧ 1 < tasks ∧ supply.pool jobs = .error e) ∧ events = [.started tasks] := by
  rw [← schedule_eq_error_iff]
  unfold run
  cases supply.schedule jobs tasks with
  | ok schedule => simp [Reported.map]
  | error e => simp [eq_comm]

theorem run_value_eq_error_iff :
    (supply.run jobs tasks go).value = .error e ↔
      1 < jobs ∧ 1 < tasks ∧ supply.pool jobs = .error e := by
  rw [← schedule_eq_error_iff]
  unfold run
  cases supply.schedule jobs tasks with
  | ok schedule => simp [Reported.map]
  | error e => simp

/-- Where so many workers are served, a run is that on some pool. -/
theorem exists_run_eq (served : supply.Serves jobs) (tasks : Nat) (go : Schedule → Reported β) :
    ∃ schedule, supply.run jobs tasks go = (go schedule).map .ok := by
  unfold run
  cases hschedule : supply.schedule jobs tasks with
  | ok schedule => exact ⟨schedule, rfl⟩
  | error e =>
    obtain ⟨hjobs, -, hrefused⟩ := schedule_eq_error_iff.mp hschedule
    obtain ⟨schedule, hmade⟩ := served hjobs
    cases hmade.symm.trans hrefused

end Rollout.Batch.Supply
