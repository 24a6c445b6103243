import Rollout.Batch.Pool
import Rollout.Fleet.Probe

/-!
# Asking all hosts

A question is put to hosts one by one, or to several at a time, and the answers are folded into
one value in the order of the hosts.

## Main definitions

* `Sweep` — how the hosts are asked
* `sweep` — asking them
-/

namespace Rollout

/-- How hosts are asked: so many at a time, their answers arriving by a schedule. The workers for
that are there; what comes of asking the system for them is said by `Batch.Supply`. -/
structure Sweep where
  jobs : Nat
  schedule : Batch.Schedule

/-- So many hosts at a time, the answers arriving in the order of the hosts. -/
def Sweep.ofJobs (jobs : Nat) : Sweep := ⟨jobs, .inOrder⟩

/-- Asks hosts and folds their answers. -/
def sweep {α τ : Type} (how : Sweep) (value : α) (question : Host → Except HostError τ)
    (fold : α → String → τ → α) (hosts : List Host) :
    Batch.Reported (Batch.Result α HostError) :=
  if how.jobs ≤ 1 then
    Batch.run value <| hosts.map fun host =>
      { key := host.name
        run := fun value =>
          match question host with
          | .ok answer => (fold value host.name answer, none)
          | .error e => (value, some e) }
  else
    Batch.runTasks how.schedule how.jobs value fold <|
      hosts.map fun host => ⟨host.name, question host⟩

end Rollout
