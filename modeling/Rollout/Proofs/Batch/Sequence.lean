import Rollout.Batch

/-!
# A batch, one action after the other

`run` gives what a batch comes to. This module follows the caller that brings it about: it reports
the start; it runs a step on the value that is there, takes its count of steps down by one and
reports the step, and so on with the next; then it reports the end and hands the result on. The
count starts at the number of steps, and a caller that would have to count below zero is stuck.

## Main definitions

* `Batch.left`, `Batch.Turn`, `Batch.turns` — the value that steps leave, and the turns in which
  they come
* `Sequence.Action`, `Sequence.State`, `Sequence.next?` — what the caller does, how far it is, and
  what it does next
* `Sequence.Runs`, `Sequence.Returns` — runs of actions, and what comes of those that end
* `Sequence.record` — all actions of a batch

## Main results

* `Batch.run_eq_turns` — the result and the progress of a batch, turn by turn
* `Sequence.runs_turns` — the caller takes all turns, and counts down to zero
* `Sequence.run_turn_by_turn` — every run of the caller goes on to the end of the one record, and
  what it returns is what `run` gives
-/

namespace Rollout.Batch

variable {α β ε : Type} {value : α} {steps : List (Step α ε)}

/-! ### Turns -/

/-- The value that steps leave, one after the other. A step starts with what the one before it
leaves, whether that one fails or not. -/
def left (value : α) (steps : List (Step α ε)) : α :=
  steps.foldl (fun value step => (step.run value).1) value

/-- The turn of a step: the value that it is run on, and how many steps remain after it. -/
structure Turn (α ε : Type) where
  step : Step α ε
  value : α
  remaining : Nat

namespace Turn

/-- The value that the step leaves. -/
def left (t : Turn α ε) : α := (t.step.run t.value).1

/-- The error of the step, if it fails. -/
def error? (t : Turn α ε) : Option ε := (t.step.run t.value).2

/-- The failure that is recorded, if the step fails. -/
def failure? (t : Turn α ε) : Option (Failure ε) := t.error?.map (⟨t.step.key, ·⟩)

/-- The report on the step. -/
def report (t : Turn α ε) : Event := .stepped t.step.key t.remaining t.error?.isNone

end Turn

/-- The turns of a batch, in the order of its steps. -/
def turns (value : α) (steps : List (Step α ε)) : List (Turn α ε) :=
  steps.mapIdx fun i step => ⟨step, left value (steps.take i), steps.length - (i + 1)⟩

@[simp] theorem left_nil (value : α) : left value ([] : List (Step α ε)) = value := rfl

@[simp] theorem left_cons (value : α) (step : Step α ε) (rest : List (Step α ε)) :
    left value (step :: rest) = left (step.run value).1 rest := rfl

@[simp] theorem turns_nil (value : α) : turns value ([] : List (Step α ε)) = [] := rfl

/-- The first step is run on the value of the batch, and the others on what it leaves. -/
@[simp] theorem turns_cons (value : α) (step : Step α ε) (rest : List (Step α ε)) :
    turns value (step :: rest) = ⟨step, value, rest.length⟩ :: turns (step.run value).1 rest := by
  simp [turns, List.mapIdx_cons]

/-- What steps come to, turn by turn. -/
theorem runSteps_eq_turns (value : α) (steps : List (Step α ε)) :
    runSteps value steps =
      ⟨⟨left value steps, (turns value steps).filterMap Turn.failure?⟩,
        (turns value steps).map Turn.report⟩ := by
  induction steps generalizing value with
  | nil => rfl
  | cons step rest ih =>
    simp only [runSteps, ih, turns_cons, left_cons, List.map_cons, List.filterMap_cons,
      Turn.report, Turn.failure?, Turn.error?]
    cases (step.run value).2 with
    | none => rfl
    | some e => rfl

/-- What a batch comes to, turn by turn. -/
theorem run_eq_turns (value : α) (steps : List (Step α ε)) :
    run value steps =
      ⟨⟨left value steps, (turns value steps).filterMap Turn.failure?⟩,
        .started steps.length :: ((turns value steps).map Turn.report ++ [.finished])⟩ := by
  rw [run, runSteps_eq_turns]

/-- The second step fails because of what the first leaves, and has its effect all the same. -/
example :
    run 0 [⟨"a", fun n => (n + 1, none)⟩,
        ⟨"a", fun n => (n * 10, if n = 1 then some "odd" else none)⟩] =
      ⟨⟨10, [⟨"a", "odd"⟩]⟩,
        [.started 2, .stepped "a" 1 true, .stepped "a" 0 false, .finished]⟩ := by
  decide

namespace Sequence

/-! ### What the caller does -/

/-- What the caller does. -/
inductive Action (α ε : Type) where
  /-- It reports. -/
  | report (event : Event)
  /-- It runs a step on a value. -/
  | run (step : Step α ε) (value : α)
  /-- It hands the result on. -/
  | handOn (result : Result α ε)

/-- The report that an action is, if it is one. -/
def Action.event? : Action α ε → Option Event
  | .report event => some event
  | _ => none

/-- How far the caller is. -/
inductive Phase (ε : Type) where
  /-- It has not begun. -/
  | fresh
  /-- It is about to run the next step. -/
  | ready
  /-- A step is over, with or without an error, and is not yet counted. -/
  | over (key : String) (error : Option ε)
  /-- It has reported the end. -/
  | finished
  /-- It has handed the result on. -/
  | ended

/-- The caller between two actions: the steps to be run, the value as it is, the count of the steps
that remain, and the failures so far. -/
structure State (α ε : Type) where
  phase : Phase ε
  todo : List (Step α ε)
  value : α
  remaining : Nat
  failures : List (Failure ε)

/-- A caller to which steps have been given. -/
def State.start (value : α) (steps : List (Step α ε)) : State α ε :=
  ⟨.fresh, steps, value, steps.length, []⟩

/-- What the caller does next, and how far it is then. It cannot take a count of zero down. -/
def next? : State α ε → Option (Action α ε × State α ε)
  | ⟨.fresh, todo, value, remaining, failures⟩ =>
    some (.report (.started remaining), ⟨.ready, todo, value, remaining, failures⟩)
  | ⟨.ready, step :: todo, value, remaining, failures⟩ =>
    let (next, error) := step.run value
    some (.run step value, ⟨.over step.key error, todo, next, remaining, failures⟩)
  -- the count of a batch never gets here, which is for the runs to show
  | ⟨.over _ _, _, _, 0, _⟩ => none
  | ⟨.over key error, todo, value, remaining + 1, failures⟩ =>
    let failures := match error with
      | some e => failures ++ [⟨key, e⟩]
      | none => failures
    some (.report (.stepped key remaining error.isNone),
      ⟨.ready, todo, value, remaining, failures⟩)
  | ⟨.ready, [], value, remaining, failures⟩ =>
    some (.report .finished, ⟨.finished, [], value, remaining, failures⟩)
  | ⟨.finished, todo, value, remaining, failures⟩ =>
    some (.handOn ⟨value, failures⟩, ⟨.ended, todo, value, remaining, failures⟩)
  | ⟨.ended, _, _, _, _⟩ => none

/-- The caller gets from one state to another by some actions. -/
inductive Runs : List (Action α ε) → State α ε → State α ε → Prop where
  | refl (s : State α ε) : Runs [] s s
  | cons {a : Action α ε} {log : List (Action α ε)} {s t u : State α ε}
      (first : next? s = some (a, t)) (rest : Runs log t u) : Runs (a :: log) s u

/-- A caller that ends can give this back: the value and the failures as they are then, and all
that it has reported. -/
def Returns (value : α) (steps : List (Step α ε)) (r : Reported (Result α ε)) : Prop :=
  ∃ log s, Runs log (.start value steps) s ∧ s.phase = .ended ∧
    r = ⟨⟨s.value, s.failures⟩, log.filterMap Action.event?⟩

/-- What the caller does in a turn: it runs the step, and then it reports it. -/
def actionsOf (t : Turn α ε) : List (Action α ε) := [.run t.step t.value, .report t.report]

/-- All that the caller does. -/
def record (value : α) (steps : List (Step α ε)) : List (Action α ε) :=
  .report (.started steps.length) :: ((turns value steps).flatMap actionsOf ++
    [.report .finished, .handOn (run value steps).value])

variable {log log' : List (Action α ε)} {s t u : State α ε}

/-! ### Runs of actions -/

theorem Runs.append (h : Runs log s t) (h' : Runs log' t u) : Runs (log ++ log') s u := by
  induction h with
  | refl => exact h'
  | cons first _ ih => exact .cons first (ih h')

/-- There is one way to go on: of two runs from one state, one that cannot be continued continues
the other. -/
theorem Runs.exists_rest (h : Runs log s t) (h' : Runs log' s u) (stuck : next? u = none) :
    ∃ rest, Runs rest t u ∧ log ++ rest = log' := by
  induction h generalizing log' with
  | refl => exact ⟨log', h', rfl⟩
  | cons first _ ih =>
    cases h' with
    | refl =>
      rw [stuck] at first
      cases first
    | cons first' rest' =>
      -- the state says what comes next, so both begin with the same action
      obtain ⟨rfl, rfl⟩ := Prod.mk.inj (Option.some.inj (first.symm.trans first'))
      obtain ⟨rest, hrest, rfl⟩ := ih rest'
      exact ⟨rest, hrest, rfl⟩

/-- In a turn the caller passes on what the step leaves, counts it off and records its failure. -/
theorem runs_turn (t : Turn α ε) (todo : List (Step α ε)) (failures : List (Failure ε)) :
    Runs (actionsOf t) ⟨.ready, t.step :: todo, t.value, t.remaining + 1, failures⟩
      ⟨.ready, todo, t.left, t.remaining, failures ++ t.failure?.toList⟩ := by
  refine .cons rfl (.cons rfl ?_)
  -- both actions are taken by now, and what is left to compare are the failures
  rw [Turn.failure?, Turn.error?]
  cases (t.step.run t.value).2 with
  | none =>
    rw [Option.map_none, Option.toList_none, List.append_nil]
    exact .refl _
  | some e => exact .refl _

/-- The caller takes all turns. When it has run all steps, it has counted down to zero. -/
theorem runs_turns (value : α) (steps : List (Step α ε)) (failures : List (Failure ε)) :
    Runs ((turns value steps).flatMap actionsOf) ⟨.ready, steps, value, steps.length, failures⟩
      ⟨.ready, [], left value steps, 0,
        failures ++ (turns value steps).filterMap Turn.failure?⟩ := by
  -- what a step leaves, and its failure, are what the caller takes into the next turn
  induction steps generalizing value failures with
  | nil =>
    rw [turns_nil, List.filterMap_nil, List.append_nil]
    exact .refl _
  | cons step rest ih =>
    let t : Turn α ε := ⟨step, value, rest.length⟩
    have failed : (t :: turns t.left rest).filterMap Turn.failure? =
        t.failure?.toList ++ (turns t.left rest).filterMap Turn.failure? := by
      rw [List.filterMap_cons]
      cases t.failure? <;> rfl
    have later := ih t.left (failures ++ t.failure?.toList)
    rw [List.append_assoc, ← failed] at later
    rw [turns_cons, left_cons, List.flatMap_cons]
    exact (runs_turn t rest failures).append later

/-- The caller does all that is in the record, and is done then. -/
theorem runs_record (value : α) (steps : List (Step α ε)) :
    Runs (record value steps) (.start value steps)
      ⟨.ended, [], left value steps, 0, (turns value steps).filterMap Turn.failure?⟩ := by
  have turned := runs_turns value steps []
  rw [List.nil_append] at turned
  rw [record, run_eq_turns]
  exact .cons rfl (turned.append (.cons rfl (.cons rfl (.refl _))))

/-- The reports among all actions are the progress of the batch. -/
theorem filterMap_event?_record (value : α) (steps : List (Step α ε)) :
    (record value steps).filterMap Action.event? = (run value steps).events := by
  have turned : ((turns value steps).flatMap actionsOf).filterMap Action.event? =
      (turns value steps).map Turn.report := by
    rw [List.filterMap_flatMap, List.map_eq_flatMap]
    rfl
  rw [run_eq_turns, record, List.filterMap_cons_some (by rfl), List.filterMap_append, turned]
  rfl

/-! ### The one way that a batch goes -/

theorem next?_of_ended (h : s.phase = .ended) : next? s = none := by
  obtain ⟨phase, todo, value, remaining, failures⟩ := s
  cases h
  rfl

/-- However far the caller has come, it goes on to the end of the record. -/
theorem exists_rest_of_runs (h : Runs log (.start value steps) s) :
    ∃ rest last, Runs rest s last ∧ last.phase = .ended ∧ log ++ rest = record value steps := by
  obtain ⟨rest, hrest, heq⟩ := h.exists_rest (runs_record value steps) rfl
  exact ⟨rest, _, hrest, rfl, heq⟩

/-- The caller is done with the record, and not before. -/
theorem phase_eq_ended_iff (h : Runs log (.start value steps) s) :
    s.phase = .ended ↔ log = record value steps := by
  obtain ⟨rest, last, hrest, hlast, heq⟩ := exists_rest_of_runs h
  constructor
  · intro hended
    -- there is no going on, so nothing of the record is left
    have stuck := next?_of_ended hended
    cases hrest with
    | refl => rw [← heq, List.append_nil]
    | cons first _ =>
      rw [stuck] at first
      cases first
  · rintro rfl
    obtain rfl := List.self_eq_append_right.mp heq.symm
    cases hrest
    exact hlast

/-- A caller that is done returns what `run` gives. -/
theorem returns_iff {r : Reported (Result α ε)} : Returns value steps r ↔ r = run value steps := by
  have complete := runs_record value steps
  constructor
  · rintro ⟨log, s, hruns, hended, rfl⟩
    obtain rfl := (phase_eq_ended_iff hruns).mp hended
    -- the record leads to one state only
    obtain ⟨rest, hrest, heq⟩ := complete.exists_rest hruns (next?_of_ended hended)
    obtain rfl := List.append_right_eq_self.mp heq
    cases hrest
    rw [filterMap_event?_record, run_eq_turns]
  · rintro rfl
    refine ⟨_, _, complete, rfl, ?_⟩
    rw [filterMap_event?_record, run_eq_turns]

/-- Every run of the caller is the beginning of one record, and goes on to its end; so the count
never fails. In the record, the start comes first; then each step is run, on the value that the
steps before it leave, and reported with the number of steps behind it before the next one is run;
then come the end and, once, the result. What is returned is the value that all steps leave, the
failures in the order of the steps, and the reports; and what takes the result takes that one. -/
theorem run_turn_by_turn (value : α) (steps : List (Step α ε)) :
    (∀ log s, Runs log (.start value steps) s →
      (∃ rest last, Runs rest s last ∧ last.phase = .ended ∧ log ++ rest = record value steps) ∧
        (s.phase = .ended ↔ log = record value steps)) ∧
    (∀ r, Returns value steps r ↔ r = run value steps) ∧
    run value steps =
      ⟨⟨left value steps, (turns value steps).filterMap Turn.failure?⟩,
        .started steps.length :: ((turns value steps).map Turn.report ++ [.finished])⟩ ∧
    ∀ next : Result α ε → β,
      runThen value steps next = ⟨next (run value steps).value, (run value steps).events⟩ := by
  refine ⟨fun log s hruns => ?_, fun r => returns_iff, run_eq_turns value steps, fun next => rfl⟩
  exact ⟨exists_rest_of_runs hruns, phase_eq_ended_iff hruns⟩

end Sequence

end Rollout.Batch
