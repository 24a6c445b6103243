import Rollout.Batch

/-!
# Batches on a pool of workers

The tasks of a pool know nothing of the accumulated value: each gives a value of its own, or
fails. They may end in any order, and the reports come in that order; the values are folded
afterwards, in the order of the tasks. A schedule stands for the order in which the workers'
messages arrive.

Whether there is a pool at all is up to the system, which may refuse so many workers. Then nothing
is run. Where no pool is needed the system is not asked.

## Main definitions

* `Batch.Task` — tasks
* `Batch.foldOutcomes` — their values folded into one
* `Batch.Schedule` — an order of arrival
* `Batch.runTasks` — running tasks on so many workers
* `Batch.Supply`, `Batch.PoolError` — the pools that the system makes, and why it makes none
* `Batch.Supply.run` — running something on so many workers, if the system makes a pool of them
-/

namespace Rollout.Batch

/-- A task and what comes of it when it is run. -/
structure Task (τ ε : Type) where
  key : String
  outcome : Except ε τ

/-- What a worker tells about a task that is over: its key, and whether it succeeded. -/
abbrev Message := String × Bool

/-- Whether an outcome is a value. -/
def succeeded {τ ε : Type} : Except ε τ → Bool
  | .ok _ => true
  | .error _ => false

/-- What a worker tells about a task. -/
def Task.message {τ ε : Type} (t : Task τ ε) : Message := (t.key, succeeded t.outcome)

/-- An order in which messages arrive: each message that is sent arrives once. -/
structure Schedule where
  arrange : List Message → List Message
  perm : ∀ messages, (arrange messages).Perm messages

/-- Messages arrive in the order of the tasks. -/
def Schedule.inOrder : Schedule := ⟨id, fun _ => .rfl⟩

variable {α τ ε : Type}

/-- Folds the values of tasks into one, in their order, and keeps the failures. -/
def foldOutcomes (value : α) (fold : α → String → τ → α) : List (Task τ ε) → Result α ε
  | [] => ⟨value, []⟩
  | t :: rest =>
    match t.outcome with
    | .ok v => foldOutcomes (fold value t.key v) fold rest
    | .error e =>
      let r := foldOutcomes value fold rest
      ⟨r.value, ⟨t.key, e⟩ :: r.failures⟩

/-- The reports on messages, in the order of their arrival. -/
def reports : List Message → List Event
  | [] => []
  | (key, ok) :: rest => .stepped key rest.length ok :: reports rest

/-- A task as a step that folds its value. -/
def Task.toStep (fold : α → String → τ → α) (t : Task τ ε) : Step α ε :=
  ⟨t.key, fun value =>
    match t.outcome with
    | .ok v => (fold value t.key v, none)
    | .error e => (value, some e)⟩

/-- Runs tasks on `jobs` workers, which are there if they are needed. One worker, or one task, needs
no pool: each task is then folded as soon as it is over. -/
def runTasks (schedule : Schedule) (jobs : Nat) (value : α) (fold : α → String → τ → α)
    (tasks : List (Task τ ε)) : Reported (Result α ε) :=
  if jobs ≤ 1 ∨ tasks.length ≤ 1 then run value (tasks.map (Task.toStep fold))
  else
    ⟨foldOutcomes value fold tasks,
      .started tasks.length ::
        (reports (schedule.arrange (tasks.map Task.message)) ++ [.finished])⟩

/-! ### Pools from the system -/

/-- Why the system makes no pool of workers, and what is behind that, in its own words. -/
structure PoolError where
  reason : String
  causes : List String
deriving DecidableEq, Repr

/-- The error in words. -/
def PoolError.message (e : PoolError) : String :=
  "failed to create fan-out thread pool: " ++ e.reason

/-- What the system answers when it is asked for a pool of so many workers: a pool whose messages
arrive by a schedule, or why there is none. -/
structure Supply where
  pool : Nat → Except PoolError Schedule

namespace Supply

/-- The system makes every pool, and messages arrive in the order of the tasks. -/
def plenty : Supply := ⟨fun _ => .ok .inOrder⟩

/-- The schedule of so many tasks on so many workers, unless a pool is needed and refused. -/
def schedule (supply : Supply) (jobs tasks : Nat) : Except PoolError Schedule :=
  if jobs ≤ 1 ∨ tasks ≤ 1 then .ok .inOrder else supply.pool jobs

/-- Runs something that has so many tasks on so many workers, unless a pool is needed and refused.
The start is reported before the system is asked for a pool. -/
def run {β : Type} (supply : Supply) (jobs tasks : Nat) (go : Schedule → Reported β) :
    Reported (Except PoolError β) :=
  match supply.schedule jobs tasks with
  | .ok schedule => (go schedule).map .ok
  | .error e => ⟨.error e, [.started tasks]⟩

end Supply

end Rollout.Batch
