import Mathlib.Logic.Relation
import Rollout.Proofs.Batch.Progress

/-!
# A pool of workers, step by step

`runTasks` takes the order in which messages arrive as given. This module looks at the pool that
brings it about. Workers take tasks, run them, tell the caller and put what came of a task in its
place; meanwhile the caller receives one message after the other and counts down. Nothing fixes
the order of all this but that each worker does one task at a time, and that a message is sent
before it arrives.

## Main definitions

* `Pool.Stage`, `Pool.Slot`, `Pool.State` — how far each task is, the messages in flight, and what
  the caller has counted and reported
* `Pool.Step`, `Pool.Run` — what a worker or the caller does next, and runs of such steps
* `Pool.Returns` — what the caller gives back when a run is over

## Main results

* `Pool.Accounts.step`, `Pool.Run.accounts` — no message is lost or received twice, and the count
  is that of the messages to come
* `Pool.wellFounded_step`, `Pool.exists_run_isOver` — every run comes to its end
* `Pool.returns_iff` — pools give back what `runTasks` does, with any schedule and no other
* `Pool.returns_as_one_by_one` — in whatever order workers and messages get on, the result is that
  of one task after the other
-/

namespace Rollout.Batch.Pool

variable {α τ ε : Type}

/-- How far a task is. -/
inductive Stage where
  /-- No worker has taken it. -/
  | waiting
  /-- A worker runs it. -/
  | running
  /-- It is over, and its worker has told the caller so. -/
  | told
  /-- What came of it is in its place, and its worker is free. -/
  | stored
deriving DecidableEq

/-- A task in its place among all of them. -/
structure Slot (τ ε : Type) where
  task : Task τ ε
  stage : Stage

/-- Whether a worker is at the task. -/
def Slot.isBusy (slot : Slot τ ε) : Bool := slot.stage == .running || slot.stage == .told

/-- Whether the message of the task has been sent. -/
def Slot.isTold (slot : Slot τ ε) : Bool := slot.stage == .told || slot.stage == .stored

/-- A pool at work: the tasks in their order, the messages that have been sent and not received,
the number of tasks that the caller still waits for, and its reports so far. -/
structure State (τ ε : Type) where
  slots : List (Slot τ ε)
  inFlight : List Message
  remaining : Nat
  reported : List (Message × Nat)

/-- A pool to which tasks have been given. -/
def State.start (tasks : List (Task τ ε)) : State τ ε :=
  ⟨tasks.map (⟨·, .waiting⟩), [], tasks.length, []⟩

/-- What a worker or the caller does next, in a pool of so many workers. -/
inductive Step (jobs : Nat) : State τ ε → State τ ε → Prop where
  /-- A worker that is free takes a task. -/
  | take {before after : List (Slot τ ε)} {t : Task τ ε} {inFlight : List Message}
      {remaining : Nat} {reported : List (Message × Nat)}
      (free : (before ++ ⟨t, .waiting⟩ :: after).countP Slot.isBusy < jobs) :
      Step jobs ⟨before ++ ⟨t, .waiting⟩ :: after, inFlight, remaining, reported⟩
        ⟨before ++ ⟨t, .running⟩ :: after, inFlight, remaining, reported⟩
  /-- A task is over; its worker sends the message. -/
  | tell {before after : List (Slot τ ε)} {t : Task τ ε} {inFlight : List Message}
      {remaining : Nat} {reported : List (Message × Nat)} :
      Step jobs ⟨before ++ ⟨t, .running⟩ :: after, inFlight, remaining, reported⟩
        ⟨before ++ ⟨t, .told⟩ :: after, inFlight ++ [t.message], remaining, reported⟩
  /-- A worker puts what came of its task in place. -/
  | store {before after : List (Slot τ ε)} {t : Task τ ε} {inFlight : List Message}
      {remaining : Nat} {reported : List (Message × Nat)} :
      Step jobs ⟨before ++ ⟨t, .told⟩ :: after, inFlight, remaining, reported⟩
        ⟨before ++ ⟨t, .stored⟩ :: after, inFlight, remaining, reported⟩
  /-- The caller receives one of the messages in flight, takes its count down by one and reports.
  There is no such step from a count of zero. -/
  | receive {slots : List (Slot τ ε)} {earlier later : List Message} {message : Message}
      {remaining : Nat} {reported : List (Message × Nat)} :
      Step jobs ⟨slots, earlier ++ message :: later, remaining + 1, reported⟩
        ⟨slots, earlier ++ later, remaining, reported ++ [(message, remaining)]⟩

/-- A pool of so many workers gets from the start to a state. -/
abbrev Run (jobs : Nat) (tasks : List (Task τ ε)) (s : State τ ε) : Prop :=
  Relation.ReflTransGen (Step jobs) (.start tasks) s

/-- The workers are done with all tasks, and the caller has received all messages. -/
def State.IsOver (s : State τ ε) : Prop :=
  (∀ slot ∈ s.slots, slot.stage = .stored) ∧ s.inFlight = []

/-- What the caller gives back: the outcomes folded in the order of their places, and all that it
has reported. -/
def State.returned (value : α) (fold : α → String → τ → α) (s : State τ ε) :
    Reported (Result α ε) :=
  ⟨foldOutcomes value fold (s.slots.map Slot.task),
    .started s.slots.length :: (s.reported.map report ++ [.finished])⟩

/-- A pool of so many workers can give this back. -/
def Returns (jobs : Nat) (value : α) (fold : α → String → τ → α) (tasks : List (Task τ ε))
    (r : Reported (Result α ε)) : Prop :=
  ∃ s, Run jobs tasks s ∧ s.IsOver ∧ s.returned value fold = r

variable {jobs : Nat} {tasks : List (Task τ ε)} {s s' : State τ ε}

/-! ### What every run keeps -/

/-- The messages that have been sent, in the order of the tasks. -/
def sent (slots : List (Slot τ ε)) : List Message :=
  (slots.filter Slot.isTold).map fun slot => slot.task.message

/-- Once a task is over, its message is among those that have been sent. -/
theorem perm_sent_told (before after : List (Slot τ ε)) (t : Task τ ε) :
    (sent (before ++ ⟨t, .running⟩ :: after) ++ [t.message]).Perm
      (sent (before ++ ⟨t, .told⟩ :: after)) := by
  simp only [sent, List.filter_append, List.map_append, List.append_assoc]
  exact (List.perm_append_singleton _ _).append_left _

/-- When no task is at work or waits, all messages have been sent. -/
theorem sent_of_stored {slots : List (Slot τ ε)} (h : ∀ slot ∈ slots, slot.stage = .stored) :
    sent slots = (slots.map Slot.task).map Task.message := by
  have told : ∀ slot ∈ slots, slot.isTold = true := fun slot hslot => by
    rw [Slot.isTold, h slot hslot]
    rfl
  rw [sent, List.filter_eq_self.mpr told, List.map_map]
  rfl

/-- The tasks are in their places; the messages that have been sent are those received and those
in flight; and the numbers reported so far and those below the count are a countdown. -/
structure Accounts (tasks : List (Task τ ε)) (s : State τ ε) : Prop where
  inPlace : s.slots.map Slot.task = tasks
  messages : (s.reported.map Prod.fst ++ s.inFlight).Perm (sent s.slots)
  countdown : s.reported.map Prod.snd ++ (List.range s.remaining).reverse =
    (List.range tasks.length).reverse

theorem Accounts.start (tasks : List (Task τ ε)) : Accounts tasks (.start tasks) where
  inPlace := by simp [State.start, Function.comp_def]
  messages := by simp [State.start, sent, Slot.isTold, List.filter_map, Function.comp_def]
  countdown := rfl

/-- Whoever does something keeps the accounts. -/
theorem Accounts.step (h : Accounts tasks s) (hstep : Step jobs s s') : Accounts tasks s' := by
  obtain ⟨inPlace, messages, countdown⟩ := h
  cases hstep with
  | take free =>
    exact ⟨by simpa using inPlace, by simpa [sent, Slot.isTold] using messages, countdown⟩
  | @tell before after t inFlight =>
    refine ⟨by simpa using inPlace, ?_, countdown⟩
    -- the new message joins those in flight on one side and those that have been sent on the other
    rw [← List.append_assoc]
    exact (messages.append_right [t.message]).trans (perm_sent_told before after t)
  | store =>
    exact ⟨by simpa using inPlace, by simpa [sent, Slot.isTold] using messages, countdown⟩
  | @receive slots earlier later message remaining reported =>
    -- the message passes from those in flight to those received, and the count to the reports
    refine ⟨inPlace, ?_, ?_⟩
    · refine List.Perm.trans ?_ messages
      simp only [List.map_append, List.map_cons, List.map_nil, List.append_assoc,
        List.cons_append, List.nil_append]
      exact List.perm_middle.symm.append_left _
    · rw [← countdown, List.range_succ, List.reverse_concat]
      simp

theorem Run.accounts (h : Run jobs tasks s) : Accounts tasks s := by
  induction h with
  | refl => exact .start tasks
  | tail _ hstep ih => exact ih.step hstep

/-- The caller never counts below zero: it waits for at least as many tasks as there are messages
in flight. -/
theorem Accounts.inFlight_le_remaining (h : Accounts tasks s) :
    s.inFlight.length ≤ s.remaining := by
  have places := congrArg List.length h.inPlace
  have messages := h.messages.length_eq
  have countdown := congrArg List.length h.countdown
  -- a task sends one message, so there are no more messages than tasks
  have atMost := List.length_filter_le Slot.isTold s.slots
  simp only [sent, List.length_append, List.length_map, List.length_reverse,
    List.length_range] at places messages countdown
  omega

/-- When all is over, every message has been reported, and the countdown has come to its end. -/
theorem Accounts.isProgressOf (h : Accounts tasks s) (ended : s.IsOver) (value : α)
    (fold : α → String → τ → α) :
    IsProgressOf (tasks.map Task.message) (s.returned value fold).events := by
  obtain ⟨stored, landed⟩ := ended
  have messages := h.messages
  rw [sent_of_stored stored, h.inPlace, landed, List.append_nil] at messages
  have noneLeft : s.remaining = 0 := by
    have reported := messages.length_eq
    have countdown := congrArg List.length h.countdown
    simp only [List.length_append, List.length_map, List.length_reverse,
      List.length_range] at reported countdown
    omega
  have countdown := h.countdown
  rw [noneLeft, List.range_zero, List.reverse_nil, List.append_nil] at countdown
  refine ⟨s.reported, messages, ?_, ?_⟩
  · rw [List.length_map, countdown]
  · rw [State.returned, List.length_map, ← h.inPlace, List.length_map]

/-! ### Every run comes to its end -/

/-- How many more steps it takes for a task that is so far; its message needs one as well. -/
def Stage.toGo : Stage → Nat
  | .waiting => 4
  | .running => 3
  | .told => 1
  | .stored => 0

/-- How many more steps it takes for some tasks. -/
def toGo : List (Slot τ ε) → Nat
  | [] => 0
  | slot :: rest => slot.stage.toGo + toGo rest

@[simp] theorem toGo_append (before after : List (Slot τ ε)) :
    toGo (before ++ after) = toGo before + toGo after := by
  induction before with
  | nil => simp [toGo]
  | cons slot rest ih => simp [toGo, ih, Nat.add_assoc]

theorem Step.toGo_lt (h : Step jobs s s') :
    toGo s'.slots + s'.inFlight.length < toGo s.slots + s.inFlight.length := by
  cases h with
  | take free => simp [toGo, Stage.toGo]
  | tell => simp [toGo, Stage.toGo]; omega
  | store => simp [toGo, Stage.toGo]
  | receive => simp

/-- No run goes on forever. -/
theorem wellFounded_step (jobs : Nat) : WellFounded fun s' s : State τ ε => Step jobs s s' :=
  Subrelation.wf Step.toGo_lt (measure fun s : State τ ε => toGo s.slots + s.inFlight.length).wf

/-- While a run is not over, a worker or the caller can do something. -/
theorem Accounts.exists_step (h : Accounts tasks s) (hjobs : 0 < jobs) (going : ¬ s.IsOver) :
    ∃ s', Step jobs s s' := by
  have counted := h.inFlight_le_remaining
  obtain ⟨slots, inFlight, remaining, reported⟩ := s
  by_cases busy : ∃ slot ∈ slots, slot.isBusy = true
  · -- a worker that is at a task can go on with it
    obtain ⟨⟨t, stage⟩, hslot, hbusy⟩ := busy
    obtain ⟨before, after, rfl⟩ := List.append_of_mem hslot
    cases stage with
    | running => exact ⟨_, .tell⟩
    | told => exact ⟨_, .store⟩
    | waiting => simp [Slot.isBusy] at hbusy
    | stored => simp [Slot.isBusy] at hbusy
  · have idle : slots.countP Slot.isBusy = 0 := by
      rw [List.countP_eq_zero]
      exact fun slot hslot hbusy => busy ⟨slot, hslot, hbusy⟩
    by_cases stored : ∀ slot ∈ slots, slot.stage = .stored
    · -- the workers are done, so that the caller has something to receive
      cases inFlight with
      | nil => exact absurd ⟨stored, rfl⟩ going
      | cons message later =>
        obtain ⟨remaining, rfl⟩ := Nat.exists_eq_add_one.mpr (Nat.lt_of_lt_of_le (by simp) counted)
        have received : Step jobs ⟨slots, [] ++ message :: later, remaining + 1, reported⟩
            ⟨slots, [] ++ later, remaining, reported ++ [(message, remaining)]⟩ := .receive
        exact ⟨_, received⟩
    · -- all workers are free, and a task waits
      obtain ⟨⟨t, stage⟩, unfinished⟩ := Classical.not_forall.mp stored
      obtain ⟨hslot, hstage⟩ := Classical.not_imp.mp unfinished
      cases stage with
      | waiting =>
        obtain ⟨before, after, rfl⟩ := List.append_of_mem hslot
        exact ⟨_, .take (idle ▸ hjobs)⟩
      | stored => exact absurd rfl hstage
      | running => exact absurd ⟨_, hslot, rfl⟩ busy
      | told => exact absurd ⟨_, hslot, rfl⟩ busy

/-- A run can go on until it is over. -/
theorem exists_run_isOver (h : Accounts tasks s) (hjobs : 0 < jobs) :
    ∃ s', Relation.ReflTransGen (Step jobs) s s' ∧ s'.IsOver := by
  induction s using (wellFounded_step jobs).induction with
  | _ s ih =>
    by_cases going : s.IsOver
    · exact ⟨s, .refl, going⟩
    · obtain ⟨s', hstep⟩ := h.exists_step hjobs going
      obtain ⟨last, hrun, ended⟩ := ih s' hstep (h.step hstep)
      exact ⟨last, .head hstep hrun, ended⟩

/-! ### Any order of arrival -/

/-- The workers can do all tasks before the caller receives anything. -/
theorem run_tasks (hjobs : 0 < jobs) (done rest : List (Task τ ε)) (inFlight : List Message)
    (remaining : Nat) (reported : List (Message × Nat)) :
    Relation.ReflTransGen (Step jobs)
      ⟨done.map (⟨·, .stored⟩) ++ rest.map (⟨·, .waiting⟩), inFlight, remaining, reported⟩
      ⟨(done ++ rest).map (⟨·, .stored⟩), inFlight ++ rest.map Task.message, remaining,
        reported⟩ := by
  -- one task after the other is taken, told and stored: no worker is busy in between
  induction rest generalizing done inFlight with
  | nil => simpa using .refl
  | cons t rest ih =>
    have idle : (done.map (Slot.mk · .stored) ++ ⟨t, .waiting⟩ ::
        rest.map (Slot.mk · .waiting)).countP Slot.isBusy = 0 := by
      simp [Slot.isBusy, List.countP_map, Function.comp_def]
    have tail := ih (done ++ [t]) (inFlight ++ [t.message])
    simp only [List.append_assoc, List.map_append, List.map_cons, List.map_nil,
      List.singleton_append] at tail ⊢
    exact .head (.take (idle ▸ hjobs)) (.head .tell (.head .store tail))

/-- The caller can receive the messages in flight in any order. -/
theorem run_receives (jobs : Nat) {arrived inFlight : List Message} (h : arrived.Perm inFlight)
    (slots : List (Slot τ ε)) (reported : List (Message × Nat)) :
    Relation.ReflTransGen (Step jobs) ⟨slots, inFlight, arrived.length, reported⟩
      ⟨slots, [], 0, reported ++ arrived.zip (List.range arrived.length).reverse⟩ := by
  -- the message that is to arrive next is somewhere among those in flight
  induction arrived generalizing inFlight reported with
  | nil =>
    obtain rfl := List.nil_perm.mp h
    simpa using .refl
  | cons message rest ih =>
    obtain ⟨earlier, later, rfl⟩ := List.append_of_mem (h.mem_iff.mp List.mem_cons_self)
    have left : rest.Perm (earlier ++ later) := (h.trans List.perm_middle).cons_inv
    have tail := ih left (reported ++ [(message, rest.length)])
    rw [List.append_assoc, List.singleton_append, ← List.zip_cons_cons, ← List.reverse_concat,
      ← List.range_succ] at tail
    exact .head .receive tail

/-! ### What a pool gives back -/

/-- The schedule by which some messages arrive in a given order. -/
def arriving {messages arrived : List Message} (perm : arrived.Perm messages) : Schedule where
  arrange sent := if sent = messages then arrived else sent
  perm sent := by
    split
    case isTrue h => exact h ▸ perm
    case isFalse => exact .rfl

/-- Two or more tasks on two or more workers: what a pool gives back is what `runTasks` gives for
some schedule, and for every schedule there is a pool that gives it back. -/
theorem returns_iff (hjobs : 1 < jobs) (htasks : 1 < tasks.length) (value : α)
    (fold : α → String → τ → α) (r : Reported (Result α ε)) :
    Returns jobs value fold tasks r ↔
      ∃ schedule, runTasks schedule jobs value fold tasks = r := by
  have pooled (schedule : Schedule) : runTasks schedule jobs value fold tasks =
      ⟨foldOutcomes value fold tasks, .started tasks.length ::
        (reports (schedule.arrange (tasks.map Task.message)) ++ [.finished])⟩ := by
    rw [runTasks, if_neg (by omega)]
  constructor
  · rintro ⟨s, hrun, ended, rfl⟩
    -- the reports of the run are those of a schedule by which messages arrive as they did
    have accounts := hrun.accounts
    obtain ⟨arrived, perm, events⟩ :=
      isProgressOf_iff.mp (accounts.isProgressOf ended value fold)
    refine ⟨arriving perm, ?_⟩
    rw [pooled, State.returned, Reported.mk.injEq, accounts.inPlace]
    refine ⟨rfl, ?_⟩
    rw [State.returned, List.length_map] at events
    simp only [arriving, if_pos, ← events]
  · rintro ⟨schedule, rfl⟩
    -- all tasks are done first, and then the messages arrive as the schedule has it
    have perm := schedule.perm (tasks.map Task.message)
    have worked : Run jobs tasks ⟨tasks.map (⟨·, .stored⟩), tasks.map Task.message,
        tasks.length, []⟩ :=
      run_tasks (Nat.lt_of_succ_lt hjobs) [] tasks [] tasks.length []
    have received := run_receives jobs perm (tasks.map (⟨·, .stored⟩)) []
    rw [perm.length_eq, List.length_map] at received
    refine ⟨_, worked.trans received, ⟨by simp, rfl⟩, ?_⟩
    rw [pooled, State.returned, reports_eq_map_zip, perm.length_eq]
    simp [Function.comp_def]

/-- A pool of two or more workers with two or more tasks. However workers and messages get on, the
caller never counts below zero, its run ends, and no run goes on forever. What it gives back is
what `runTasks` gives for some schedule, and every schedule can come about. The result is that of
the same tasks on any number of workers, so also of one task after the other, failures included;
and the progress is the start, one report on each task with a countdown to none, and the end. -/
theorem returns_as_one_by_one (hjobs : 1 < jobs) (htasks : 1 < tasks.length) (value : α)
    (fold : α → String → τ → α) :
    (∀ s, Run jobs tasks s → s.inFlight.length ≤ s.remaining ∧
      ∃ s', Relation.ReflTransGen (Step jobs) s s' ∧ s'.IsOver) ∧
    (WellFounded fun s' s : State τ ε => Step jobs s s') ∧
    (∀ r, Returns jobs value fold tasks r ↔
      ∃ schedule, runTasks schedule jobs value fold tasks = r) ∧
    ∀ r, Returns jobs value fold tasks r →
      (∀ schedule workers, r.value = (runTasks schedule workers value fold tasks).value) ∧
        IsProgressOf (tasks.map Task.message) r.events := by
  refine ⟨fun s hrun => ?_, wellFounded_step jobs, returns_iff hjobs htasks value fold, ?_⟩
  · exact ⟨hrun.accounts.inFlight_le_remaining,
      exists_run_isOver hrun.accounts (Nat.lt_of_succ_lt hjobs)⟩
  · intro r hr
    obtain ⟨schedule, rfl⟩ := (returns_iff hjobs htasks value fold r).mp hr
    refine ⟨fun schedule' workers => ?_, runTasks_progress ..⟩
    rw [runTasks_value, runTasks_value]

/-! Two tasks with one key, the second of which fails and is over first. -/

/-- The tasks. -/
def namesakes : List (Task String String) := [⟨"web", .ok "up"⟩, ⟨"web", .error "down"⟩]

/-- Messages arrive in the reverse order of the tasks. -/
def lastFirst : Schedule := ⟨List.reverse, List.reverse_perm⟩

/-- A pool can report the failure first, and still folds the outcomes in their order. -/
theorem namesakes_returned :
    1 < 2 ∧ 1 < namesakes.length ∧
      ∃ r, Returns 2 [] (fun seen key v => seen ++ [key ++ "=" ++ v]) namesakes r ∧
        r.value = ⟨["web=up"], [⟨"web", "down"⟩]⟩ ∧
        r.events = [.started 2, .stepped "web" 1 false, .stepped "web" 0 true, .finished] := by
  have hjobs : 1 < 2 := by decide
  have htasks : 1 < namesakes.length := by decide
  obtain ⟨-, -, returns, asOne⟩ := returns_as_one_by_one hjobs htasks []
    fun seen key v => seen ++ [key ++ "=" ++ v]
  have hr := (returns _).mpr ⟨lastFirst, rfl⟩
  refine ⟨hjobs, htasks, _, hr, ?_, by rfl⟩
  rw [(asOne _ hr).1 lastFirst 1]
  rfl

end Rollout.Batch.Pool
