import Rollout.Batch.Pool

/-!
# What the outcomes of tasks come to

The result of a batch of tasks depends on their keys and outcomes alone: not on the number of
workers, and not on the order in which their messages arrive.

## Main definitions

* `Batch.Task.foldInto`, `Batch.Task.failure?` — what one task does to the value, and the failure
  that it leaves

## Main results

* `Batch.foldOutcomes_value`, `Batch.foldOutcomes_failures` — the value and the failures, each as
  one pass over the tasks
* `Batch.runTasks_value` — with any number of workers the result is that of folding the outcomes
-/

namespace Rollout.Batch

variable {α τ ε : Type}

/-- The value after a task: folded with what the task gives, or left alone if it fails. -/
def Task.foldInto (fold : α → String → τ → α) (value : α) (t : Task τ ε) : α :=
  match t.outcome with
  | .ok v => fold value t.key v
  | .error _ => value

/-- The failure of a task, if it fails. -/
def Task.failure? (t : Task τ ε) : Option (Failure ε) :=
  match t.outcome with
  | .ok _ => none
  | .error e => some ⟨t.key, e⟩

/-- The value that is left is that of the tasks one after the other. -/
theorem foldOutcomes_value (value : α) (fold : α → String → τ → α) (tasks : List (Task τ ε)) :
    (foldOutcomes value fold tasks).value = tasks.foldl (Task.foldInto fold) value := by
  -- the head changes the value that the rest starts from, so the induction is over all values
  induction tasks generalizing value with
  | nil => rfl
  | cons t rest ih =>
    rw [foldOutcomes, List.foldl_cons, Task.foldInto]
    cases t.outcome with
    | ok v => exact ih _
    | error e => exact ih _

/-- The failures that are left are those of the tasks, in their order. -/
theorem foldOutcomes_failures (value : α) (fold : α → String → τ → α) (tasks : List (Task τ ε)) :
    (foldOutcomes value fold tasks).failures = tasks.filterMap Task.failure? := by
  induction tasks generalizing value with
  | nil => rfl
  | cons t rest ih =>
    rw [foldOutcomes, List.filterMap_cons, Task.failure?]
    cases t.outcome with
    | ok v => exact ih _
    | error e => exact congrArg (List.cons _) (ih _)

/-- A task that is run as a step folds its value before the next step starts. -/
theorem runSteps_cons_toStep (value : α) (fold : α → String → τ → α) (t : Task τ ε)
    (steps : List (Step α ε)) :
    runSteps value (t.toStep fold :: steps) =
      ⟨⟨(runSteps (t.foldInto fold value) steps).value.value,
          t.failure?.toList ++ (runSteps (t.foldInto fold value) steps).value.failures⟩,
        .stepped t.key steps.length (succeeded t.outcome) ::
          (runSteps (t.foldInto fold value) steps).events⟩ := by
  obtain ⟨key, outcome⟩ := t
  cases outcome with
  | ok v => rfl
  | error e => rfl

/-- Tasks that run one by one on the value leave what folding their outcomes leaves. -/
theorem runSteps_map_toStep (value : α) (fold : α → String → τ → α) (tasks : List (Task τ ε)) :
    (runSteps value (tasks.map (Task.toStep fold))).value = foldOutcomes value fold tasks := by
  induction tasks generalizing value with
  | nil => rfl
  | cons t rest ih =>
    rw [List.map_cons, runSteps_cons_toStep, ih, foldOutcomes, Task.foldInto, Task.failure?]
    cases t.outcome with
    | ok v => rfl
    | error e => rfl

theorem run_map_toStep (value : α) (fold : α → String → τ → α) (tasks : List (Task τ ε)) :
    (run value (tasks.map (Task.toStep fold))).value = foldOutcomes value fold tasks :=
  runSteps_map_toStep value fold tasks

/-- The result of a batch is that of folding its outcomes, whatever the number of workers and
the order of their messages. -/
theorem runTasks_value (schedule : Schedule) (jobs : Nat) (value : α)
    (fold : α → String → τ → α) (tasks : List (Task τ ε)) :
    (runTasks schedule jobs value fold tasks).value = foldOutcomes value fold tasks := by
  unfold runTasks
  split
  · exact run_map_toStep value fold tasks
  · rfl

end Rollout.Batch
