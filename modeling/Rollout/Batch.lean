/-!
# Batches of keyed steps

A batch runs steps one after the other on one accumulated value. A step that fails is recorded
and the batch goes on; whatever the step has done to the value by then stays. While it runs, the
batch reports its progress.

## Main definitions

* `Batch.Step`, `Batch.Failure`, `Batch.Result` — steps, and what comes of them
* `Batch.Event` — progress reports
* `Batch.run`, `Batch.runThen` — running a batch
-/

namespace Rollout.Batch

/-- A step gives the value it leaves, and its error if it fails. -/
structure Step (α ε : Type) where
  key : String
  run : α → α × Option ε

/-- A step that failed. -/
structure Failure (ε : Type) where
  key : String
  error : ε
deriving DecidableEq, Repr

/-- What a batch leaves: the value after all steps, and the failures in the order of the steps. -/
structure Result (α ε : Type) where
  value : α
  failures : List (Failure ε)
deriving DecidableEq, Repr

namespace Result

variable {α ε : Type}

/-- Whether no step failed. -/
def isSuccess (r : Result α ε) : Bool := r.failures.isEmpty

/-- The keys of the failed steps. -/
def failedKeys (r : Result α ε) : List String := r.failures.map Failure.key

end Result

/-- A progress report. -/
inductive Event where
  /-- The batch starts, with so many steps. -/
  | started (total : Nat)
  /-- The step with this key is over; so many remain. -/
  | stepped (key : String) (remaining : Nat) (succeeded : Bool)
  /-- All steps are over. -/
  | finished
deriving DecidableEq, Repr

/-- Something together with the progress that was reported on the way. -/
structure Reported (β : Type) where
  value : β
  events : List Event
deriving DecidableEq, Repr

variable {α β ε : Type}

/-- Changes what was reported about, and keeps the reports. -/
def Reported.map {γ : Type} (f : β → γ) (r : Reported β) : Reported γ := ⟨f r.value, r.events⟩

/-- Runs steps on a value. Each is followed by its report. -/
def runSteps (value : α) : List (Step α ε) → Reported (Result α ε)
  | [] => ⟨⟨value, []⟩, []⟩
  | step :: rest =>
    let (next, error) := step.run value
    let tail := runSteps next rest
    let failures := match error with
      | some e => ⟨step.key, e⟩ :: tail.value.failures
      | none => tail.value.failures
    ⟨⟨tail.value.value, failures⟩,
      .stepped step.key rest.length error.isNone :: tail.events⟩

/-- Runs a batch, from its first report to its last. -/
def run (value : α) (steps : List (Step α ε)) : Reported (Result α ε) :=
  let r := runSteps value steps
  ⟨r.value, .started steps.length :: (r.events ++ [.finished])⟩

/-- Runs a batch and hands its result on. -/
def runThen (value : α) (steps : List (Step α ε)) (next : Result α ε → β) : Reported β :=
  (run value steps).map next

end Rollout.Batch
