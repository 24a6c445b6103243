import Rollout.Fleet.Sweep
import Rollout.Proofs.Batch.Outcomes

/-!
# What a sweep comes to

However many hosts are asked at a time, a sweep leaves the answers of the hosts folded in the
order of the hosts, and the errors of those that do not answer.

## Main results

* `sweep_value`, `sweep_failures` — the folded answers, and the errors
* `length_sweep_failures` — every host is asked once: what is no answer is an error
-/

namespace Rollout

variable {α τ : Type}

/-- The task of asking a host. -/
def taskOf (question : Host → Except HostError τ) (host : Host) : Batch.Task τ HostError :=
  ⟨host.name, question host⟩

/-- A sweep runs the tasks of asking its hosts, also where it asks them one by one. -/
theorem sweep_eq_runTasks (how : Sweep) (value : α) (question : Host → Except HostError τ)
    (fold : α → String → τ → α) (hosts : List Host) :
    sweep how value question fold hosts =
      Batch.runTasks how.schedule how.jobs value fold (hosts.map (taskOf question)) := by
  unfold sweep
  split
  case isTrue h =>
    rw [Batch.runTasks, if_pos (.inl h), List.map_map]
    congr 2
    -- what is run for a host is the step of its task
    funext host
    refine congrArg (Batch.Step.mk host.name) (funext fun value => ?_)
    simp only [taskOf]
    cases question host with
    | ok answer => rfl
    | error e => rfl
  case isFalse => rfl

/-- A sweep leaves what folding the outcomes of its questions leaves. -/
theorem sweep_eq_foldOutcomes (how : Sweep) (value : α) (question : Host → Except HostError τ)
    (fold : α → String → τ → α) (hosts : List Host) :
    (sweep how value question fold hosts).value =
      Batch.foldOutcomes value fold (hosts.map (taskOf question)) := by
  rw [sweep_eq_runTasks, Batch.runTasks_value]

/-- The answers of the hosts are folded in the order of the hosts; who does not answer adds
nothing. -/
theorem sweep_value (how : Sweep) (value : α) (question : Host → Except HostError τ)
    (fold : α → String → τ → α) (hosts : List Host) :
    (sweep how value question fold hosts).value.value =
      hosts.foldl (fun value host => (taskOf question host).foldInto fold value) value := by
  rw [sweep_eq_foldOutcomes, Batch.foldOutcomes_value, List.foldl_map]

/-- The failures of a sweep are those of the hosts that do not answer, in the order of the
hosts. -/
theorem sweep_failures (how : Sweep) (value : α) (question : Host → Except HostError τ)
    (fold : α → String → τ → α) (hosts : List Host) :
    (sweep how value question fold hosts).value.failures =
      hosts.filterMap fun host => (taskOf question host).failure? := by
  rw [sweep_eq_foldOutcomes, Batch.foldOutcomes_failures, List.filterMap_map]
  rfl

/-- Every host either answers or is counted among the failures. -/
theorem length_sweep_failures (how : Sweep) (value : α) (question : Host → Except HostError τ)
    (fold : α → String → τ → α) (hosts : List Host) :
    (sweep how value question fold hosts).value.failures.length +
      (hosts.filter fun host => Batch.succeeded (question host)).length = hosts.length := by
  rw [sweep_failures]
  induction hosts with
  | nil => rfl
  | cons host rest ih =>
    -- the host counts on exactly one of the two sides
    rw [List.filterMap_cons, List.filter_cons, taskOf, Batch.Task.failure?]
    cases question host with
    | ok answer => exact congrArg (· + 1) ih
    | error e => exact (Nat.add_right_comm ..).trans (congrArg (· + 1) ih)

end Rollout
