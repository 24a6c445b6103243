import Rollout.Proofs.Batch.Outcomes

/-!
# What a batch of tasks reports

While a batch runs, it reports its start with the number of tasks, each task that is over with the
number of those that remain, and its end. The reports on tasks come in an order that the workers
settle between them; apart from that, progress depends on the keys of the tasks and on which of
them succeed.

## Main definitions

* `Batch.IsProgressOf` — events are the progress of a batch whose tasks send some messages
* `Batch.SameProgress` — two progresses that differ in the order of the reports at most

## Main results

* `Batch.runTasks_progress` — what is reported while tasks run
* `Batch.isProgressOf_iff` — reports are those on messages in the order of their arrival
* `Batch.IsProgressOf.same` — the messages determine the progress up to the order of the reports
-/

namespace Rollout.Batch

variable {α τ ε : Type} {messages : List Message} {events events' : List Event}

/-- The report on a message, with the number of tasks that remain then. -/
def report (r : Message × Nat) : Event := .stepped r.1.1 r.2 r.1.2

/-- Events are the progress of a batch whose tasks send some messages. The number of tasks comes
first; then a report on each message, once, in any order, while the number of tasks that remain
goes down by one each time, to none; and then the end. -/
def IsProgressOf (messages : List Message) (events : List Event) : Prop :=
  ∃ reported : List (Message × Nat),
    (reported.map Prod.fst).Perm messages ∧
      reported.map Prod.snd = (List.range messages.length).reverse ∧
      events = .started messages.length :: (reported.map report ++ [.finished])

/-! ### Reports on messages -/

/-- The reports on messages count down. -/
theorem reports_eq_map_zip (messages : List Message) :
    reports messages = (messages.zip (List.range messages.length).reverse).map report := by
  induction messages with
  | nil => rfl
  | cons m rest ih =>
    rw [reports, List.length_cons, List.range_succ, List.reverse_concat, List.zip_cons_cons,
      List.map_cons, ← ih]
    rfl

/-- Progress reports on the messages in some order of their arrival. -/
theorem isProgressOf_iff :
    IsProgressOf messages events ↔
      ∃ arrived, arrived.Perm messages ∧
        events = .started messages.length :: (reports arrived ++ [.finished]) := by
  constructor
  · rintro ⟨reported, perm, countdown, rfl⟩
    refine ⟨reported.map Prod.fst, perm, ?_⟩
    rw [reports_eq_map_zip, perm.length_eq, ← List.zip_of_prod rfl countdown]
  · rintro ⟨arrived, perm, rfl⟩
    have lengths : arrived.length = (List.range messages.length).reverse.length := by
      rw [List.length_reverse, List.length_range, perm.length_eq]
    refine ⟨arrived.zip (List.range messages.length).reverse, ?_, ?_, ?_⟩
    · rw [List.map_fst_zip (Nat.le_of_eq lengths)]
      exact perm
    · exact List.map_snd_zip (Nat.le_of_eq lengths.symm)
    · rw [reports_eq_map_zip, perm.length_eq]

/-- Tasks that run one by one are reported in their order. -/
theorem runSteps_events_map_toStep (value : α) (fold : α → String → τ → α)
    (tasks : List (Task τ ε)) :
    (runSteps value (tasks.map (Task.toStep fold))).events = reports (tasks.map Task.message) := by
  induction tasks generalizing value with
  | nil => rfl
  | cons t rest ih =>
    rw [List.map_cons, runSteps_cons_toStep, List.map_cons, reports, ← ih, List.length_map,
      List.length_map]
    rfl

/-- Whatever the number of workers and the order of their messages, each task is reported once. -/
theorem runTasks_progress (schedule : Schedule) (jobs : Nat) (value : α)
    (fold : α → String → τ → α) (tasks : List (Task τ ε)) :
    IsProgressOf (tasks.map Task.message) (runTasks schedule jobs value fold tasks).events := by
  rw [isProgressOf_iff, List.length_map]
  unfold runTasks
  split
  case isTrue =>
    -- without a pool, reports come in the order of the tasks
    refine ⟨tasks.map Task.message, .rfl, ?_⟩
    simp only [run, runSteps_events_map_toStep, List.length_map]
  case isFalse => exact ⟨_, schedule.perm _, rfl⟩

/-! ### Progress apart from the order of the reports -/

/-- The number of tasks, of the report on the start. -/
def Event.total? : Event → Option Nat
  | .started total => some total
  | _ => none

/-- The message that an event reports on. -/
def Event.message? : Event → Option Message
  | .stepped key _ ok => some (key, ok)
  | _ => none

/-- The number of tasks that remain, of the report on one that is over. -/
def Event.remaining? : Event → Option Nat
  | .stepped _ remaining _ => some remaining
  | _ => none

/-- Two progresses give one number of tasks, and the same; report on the same messages, in any
order; count down in the same way; and finish once. -/
structure SameProgress (events events' : List Event) : Prop where
  total : ∃ n, events.filterMap Event.total? = [n] ∧ events'.filterMap Event.total? = [n]
  messages : (events.filterMap Event.message?).Perm (events'.filterMap Event.message?)
  remaining : events.filterMap Event.remaining? = events'.filterMap Event.remaining?
  finished : events.count .finished = 1 ∧ events'.count .finished = 1

/-- What can be read off a progress. -/
theorem IsProgressOf.readings (h : IsProgressOf messages events) :
    events.filterMap Event.total? = [messages.length] ∧
      (events.filterMap Event.message?).Perm messages ∧
      events.filterMap Event.remaining? = (List.range messages.length).reverse ∧
      events.count .finished = 1 := by
  obtain ⟨reported, perm, countdown, rfl⟩ := h
  -- of the reports on messages, each reading takes its part or nothing
  have noTotal : (reported.map report).filterMap Event.total? = [] := by
    simp [List.filterMap_eq_nil_iff, report, Event.total?]
  have reportedMessages : (reported.map report).filterMap Event.message? =
      reported.map Prod.fst := by
    rw [List.filterMap_map, ← List.filterMap_eq_map]
    rfl
  have reportedRemaining : (reported.map report).filterMap Event.remaining? =
      reported.map Prod.snd := by
    rw [List.filterMap_map, ← List.filterMap_eq_map]
    rfl
  have unfinished : (reported.map report).count .finished = 0 := by
    simp [List.count_eq_zero, report]
  refine ⟨?_, ?_, ?_, ?_⟩
  · simp [noTotal, Event.total?]
  · rw [List.filterMap_cons_none rfl, List.filterMap_append, reportedMessages]
    exact (List.append_nil _).symm ▸ perm
  · rw [List.filterMap_cons_none rfl, List.filterMap_append, reportedRemaining, countdown]
    exact List.append_nil _
  · simp [unfinished]

/-- The messages of its tasks determine the progress of a batch, up to the order of the reports. -/
theorem IsProgressOf.same (h : IsProgressOf messages events)
    (h' : IsProgressOf messages events') : SameProgress events events' := by
  obtain ⟨total, reported, remaining, finished⟩ := h.readings
  obtain ⟨total', reported', remaining', finished'⟩ := h'.readings
  exact {
    total := ⟨messages.length, total, total'⟩
    messages := reported.trans reported'.symm
    remaining := remaining.trans remaining'.symm
    finished := ⟨finished, finished'⟩ }

end Rollout.Batch
