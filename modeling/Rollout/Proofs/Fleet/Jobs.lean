import Rollout.Proofs.Batch.Progress
import Rollout.Proofs.Fleet.Accounting

/-!
# How many hosts are asked at a time

Hosts may be asked one by one or several at a time, and the answers of several may arrive in any
order. What a history or a status table says does not depend on it, and of the progress only the
order of the reports on hosts does.

## Main definitions

* `Batch.Reported.Agrees` — the same value, and the same progress up to the order of the reports

## Main results

* `sweep_agrees` — any two ways of asking hosts agree
* `Config.history_agrees`, `Config.status_agrees`, `Config.collected_independent_of_jobs` — so do
  the histories and the status tables that are made of the answers
-/

namespace Rollout

namespace Batch

variable {β γ : Type} {r r' : Reported β}

/-- Two values are the same, and were reported on with the same progress. -/
structure Reported.Agrees (r r' : Reported β) : Prop where
  value : r.value = r'.value
  progress : SameProgress r.events r'.events

/-- What is made of values that agree agrees. -/
theorem Reported.Agrees.map (h : r.Agrees r') (f : β → γ) : (r.map f).Agrees (r'.map f) where
  value := congrArg f h.value
  progress := h.progress

end Batch

variable {α τ : Type}

/-- Each host is reported once, as one that answers or as one that does not. -/
theorem sweep_progress (how : Sweep) (value : α) (question : Host → Except HostError τ)
    (fold : α → String → τ → α) (hosts : List Host) :
    Batch.IsProgressOf (hosts.map fun host => (host.name, Batch.succeeded (question host)))
      (sweep how value question fold hosts).events := by
  have progress := Batch.runTasks_progress how.schedule how.jobs value fold
    (hosts.map (taskOf question))
  rw [← sweep_eq_runTasks, List.map_map] at progress
  exact progress

/-- Any two ways of asking hosts agree. -/
theorem sweep_agrees (how how' : Sweep) (value : α) (question : Host → Except HostError τ)
    (fold : α → String → τ → α) (hosts : List Host) :
    (sweep how value question fold hosts).Agrees (sweep how' value question fold hosts) where
  value := by rw [sweep_eq_foldOutcomes, sweep_eq_foldOutcomes]
  progress := (sweep_progress how ..).same (sweep_progress how' ..)

namespace Config

/-- Histories agree however hosts are asked. Where there is none, it is for the same unknown
host. -/
theorem history_agrees (c : Config) (probe : Probe) (query : HistoryQuery) (how how' : Sweep) :
    (∃ e, c.history probe query how = .error e ∧ c.history probe query how' = .error e) ∨
      ∃ report report', c.history probe query how = .ok report ∧
        c.history probe query how' = .ok report' ∧ report.Agrees report' := by
  unfold history
  cases query.hosts c with
  | error e => exact .inl ⟨e, rfl, rfl⟩
  | ok hosts => exact .inr ⟨_, _, rfl, rfl, (sweep_agrees how how' ..).map _⟩

/-- Status tables agree however hosts are asked. -/
theorem status_agrees (c : Config) (probe : Probe) (how how' : Sweep) :
    (c.status probe how).Agrees (c.status probe how') := by
  unfold status
  exact (sweep_agrees how how' ..).map _

variable {supply supply' : Batch.Supply} {jobs jobs' : Nat}

/-- Histories and status tables do not depend on how many hosts are asked at a time, none and one
included, nor on the order in which answers arrive, as long as the system serves so many workers.
The progress gives one and the same number of hosts, the same reports on hosts in some order, the
same countdown, and one end. -/
theorem collected_independent_of_jobs (c : Config) (probe : Probe) (query : HistoryQuery)
    (served : supply.Serves jobs) (served' : supply'.Serves jobs') :
    ((∃ e, c.collectHistory probe query supply jobs = .error e ∧
        c.collectHistory probe query supply' jobs' = .error e) ∨
      ∃ report events events',
        c.collectHistory probe query supply jobs = .ok ⟨.ok report, events⟩ ∧
          c.collectHistory probe query supply' jobs' = .ok ⟨.ok report, events'⟩ ∧
          Batch.SameProgress events events') ∧
      ∃ table events events',
        c.collectStatus probe supply jobs = ⟨.ok table, events⟩ ∧
          c.collectStatus probe supply' jobs' = ⟨.ok table, events'⟩ ∧
          Batch.SameProgress events events' := by
  constructor
  · obtain ⟨how, told⟩ := c.exists_collectHistory_eq probe query served
    obtain ⟨how', told'⟩ := c.exists_collectHistory_eq probe query served'
    rw [told, told']
    obtain ⟨e, h, h'⟩ | ⟨⟨report, events⟩, ⟨report', events'⟩, h, h', agrees⟩ :=
      c.history_agrees probe query how how'
    · exact .inl ⟨e, by rw [h]; rfl, by rw [h']; rfl⟩
    · obtain rfl : report = report' := agrees.value
      exact .inr ⟨report, events, events', by rw [h]; rfl, by rw [h']; rfl, agrees.progress⟩
  · obtain ⟨how, told⟩ := c.exists_collectStatus_eq probe served
    obtain ⟨how', told'⟩ := c.exists_collectStatus_eq probe served'
    have agrees := c.status_agrees probe how how'
    refine ⟨(c.status probe how).value, _, _, told, ?_, agrees.progress⟩
    rw [told', Batch.Reported.map, agrees.value]

end Config

/-- A system that makes no pool still serves one worker, and what is collected by that is what four
collect from the environment in which two hosts share an alias. -/
theorem aliasedConfig_collected :
    Batch.Supply.exhausted.Serves 1 ∧ Batch.Supply.plenty.Serves 4 ∧
      ∃ table events events',
        aliasedConfig.collectStatus patchyProbe .exhausted 1 = ⟨.ok table, events⟩ ∧
          aliasedConfig.collectStatus patchyProbe .plenty 4 = ⟨.ok table, events'⟩ ∧
          Batch.SameProgress events events' := by
  have served := Batch.Supply.exhausted.serves_of_le (Nat.le_refl 1)
  have served' := Batch.Supply.plenty_serves 4
  exact ⟨served, served', (Config.collected_independent_of_jobs aliasedConfig patchyProbe
    ⟨none, false, false, false⟩ served served').2⟩

end Rollout
