import Rollout.Fleet.Status
import Rollout.Proofs.Fleet.History

/-!
# Every host is accounted for

Whoever is asked either answers or fails, and what is collected keeps both apart: the answers of the
hosts that answer, the errors of those that fail, each host's own and in the order of the hosts.
This does not depend on which hosts fail, nor on how many are asked at a time. The name of a host
is told three times on the way, by the step that asks it, by the failure and inside the error; that
the last of these is right is up to the probe.

## Main definitions

* `Probe.LabelsErrors` — errors carry the names of the hosts that were asked
* `HostError.of?` — the error of a question that fails
* `Release.StemsFrom` — all that a release says was told by some hosts

## Main results

* `Config.status_rows`, `Config.status_failed` — the rows and the errors of a status table
* `Config.history_eq_ok_iff` — there is a history exactly if the query names no unknown host
* `Config.history_failed`, `Config.stemsFrom_of_mem` — the errors and the releases of a history
* `Config.collectStatus_eq_error_iff`, `Config.collectHistory_eq_error_iff` — nothing is collected
  exactly if the system refuses workers that are needed
* `Config.hosts_accounted_for` — every host is accounted for once
-/

namespace Rollout

/-- The errors of a probe carry the names of the hosts that were asked. -/
structure Probe.LabelsErrors (probe : Probe) : Prop where
  releases : ∀ host e, probe.releases host = .error e → e.host = host.name
  status : ∀ host e, probe.status host = .error e → e.host = host.name

/-- The error of a question to a host, if it fails. -/
def HostError.of? {τ : Type} : Except HostError τ → Option HostError
  | .ok _ => none
  | .error e => some e

/-! ### Answers and errors of hosts in a row -/

section Questions

variable {α τ : Type} {question : Host → Except HostError τ}

/-- The errors that a sweep leaves are those of the hosts, in their order. -/
theorem map_error_sweep_failures (how : Sweep) (value : α) (question : Host → Except HostError τ)
    (fold : α → String → τ → α) (hosts : List Host) :
    (sweep how value question fold hosts).value.failures.map Batch.Failure.error =
      hosts.filterMap fun host => HostError.of? (question host) := by
  rw [sweep_failures, List.map_filterMap]
  apply List.filterMap_congr
  intro host _
  rw [taskOf, Batch.Task.failure?, HostError.of?.eq_def]
  cases question host with
  | ok answer => rfl
  | error e => rfl

/-- Labelled errors name the hosts that fail, in their order. -/
theorem map_host_errors (labels : ∀ host e, question host = .error e → e.host = host.name)
    (hosts : List Host) :
    (hosts.filterMap fun host => HostError.of? (question host)).map HostError.host =
      (hosts.filter fun host => !Batch.succeeded (question host)).map Host.name := by
  induction hosts with
  | nil => rfl
  | cons host rest ih =>
    rw [List.filterMap_cons, List.filter_cons]
    cases hq : question host with
    | ok answer => exact ih
    | error e =>
      -- the error is that of the host, and it is labelled so
      have name : e.host = host.name := labels host e hq
      exact congrArg₂ List.cons name ih

end Questions

variable {c : Config} {probe : Probe} {query : HistoryQuery} {how : Sweep}
  {supply : Batch.Supply} {jobs : Nat}
  {report : Batch.Reported History} {r : Release}

/-! ### Status tables -/

/-- The rows of a status table are the answers of the hosts, in their order. -/
theorem Config.status_rows (c : Config) (probe : Probe) (how : Sweep) :
    (c.status probe how).value.rows =
      c.hosts.toList.filterMap fun host =>
        (probe.status host).toOption.map (StatusRow.mk host.name) := by
  -- a row is put behind those that are there, so the induction is over these as well
  have folded (hosts : List Host) (rows : List StatusRow) :
      hosts.foldl (fun rows host =>
          (taskOf probe.status host).foldInto (fun rows name status => rows ++ [⟨name, status⟩])
            rows) rows =
        rows ++ hosts.filterMap fun host =>
          (probe.status host).toOption.map (StatusRow.mk host.name) := by
    induction hosts generalizing rows with
    | nil => simp
    | cons host rest ih =>
      rw [List.foldl_cons, ih, List.filterMap_cons, Batch.Task.foldInto, taskOf]
      cases probe.status host with
      | ok status => simp [Except.toOption]
      | error e => rfl
  calc
    (c.status probe how).value.rows =
        (sweep how [] probe.status (fun rows name status => rows ++ [⟨name, status⟩])
          c.hosts.toList).value.value := rfl
    _ = _ := by rw [sweep_value, folded, List.nil_append]

/-- The rows of a status table name the hosts that answer, in their order. -/
theorem Config.status_hostNames (c : Config) (probe : Probe) (how : Sweep) :
    (c.status probe how).value.hostNames =
      (c.hosts.toList.filter fun host => Batch.succeeded (probe.status host)).map Host.name := by
  rw [StatusTable.hostNames, Config.status_rows]
  induction c.hosts.toList with
  | nil => rfl
  | cons host rest ih =>
    rw [List.filterMap_cons, List.filter_cons]
    cases probe.status host with
    | ok status => exact congrArg (host.name :: ·) ih
    | error e => exact ih

/-- The errors of a status table are those of the hosts, in their order. -/
theorem Config.status_failed (c : Config) (probe : Probe) (how : Sweep) :
    (c.status probe how).value.failed =
      c.hosts.toList.filterMap fun host => HostError.of? (probe.status host) :=
  map_error_sweep_failures how ..

/-- The rows and the errors of a status table name every host of the configuration once. -/
theorem Config.status_names_perm (c : Config) (labels : probe.LabelsErrors) (how : Sweep) :
    ((c.status probe how).value.hostNames ++ (c.status probe how).value.failedHosts).Perm
      c.hosts.names := by
  rw [StatusTable.failedHosts, Config.status_failed, map_host_errors labels.status,
    Config.status_hostNames, ← List.map_append]
  exact (List.filter_append_perm _ _).map Host.name

/-! ### Histories -/

/-- There is a history exactly if the query does not name a host that is none of the
configuration. -/
theorem Config.history_eq_ok_iff (c : Config) (probe : Probe) (query : HistoryQuery)
    (how : Sweep) :
    (∃ report, c.history probe query how = .ok report) ↔
      ∀ n ∈ query.host, c.hosts.contains n = true := by
  constructor
  · rintro ⟨report, h⟩ n hn
    cases hget : c.hosts.get? n with
    | some host => simp [Roster.contains, hget]
    | none =>
      -- then the hosts to ask are not known, and there is no history
      rw [Option.mem_def] at hn
      simp [Config.history, HistoryQuery.hosts, hn, hget, bind, Except.bind] at h
  · exact Config.exists_history_eq_ok probe how

/-- The errors of a history are those of the hosts that the query is about, in their order. -/
theorem Config.history_failed (h : c.history probe query how = .ok report) :
    report.value.failed =
      (c.hosts.toList.filter query.picks).filterMap fun host =>
        HostError.of? (probe.releases host) := by
  cases hq : query.hosts c with
  | error e => simp [Config.history, hq, bind, Except.bind] at h
  | ok hosts =>
    simp only [Config.history, hq, bind, Except.bind, pure, Except.pure, Except.ok.injEq] at h
    subst h
    rw [← HistoryQuery.eq_filter_of_hosts_eq_ok hq]
    exact map_error_sweep_failures how ..

/-- All that a release says was told by some of the given hosts: that it is there, on which hosts
and under which aliases, and that one of them runs it. -/
structure Release.StemsFrom (probe : Probe) (sources : List Host) (r : Release) : Prop where
  listed : ∃ host ∈ sources, r.name ∈ probe.listed host
  hostNames : ∀ x ∈ r.hostNames, ∃ host ∈ sources, r.name ∈ probe.listed host ∧ host.name = x
  hosts : ∀ x ∈ r.hosts, ∃ host ∈ sources, r.name ∈ probe.listed host ∧ host.shortName = x
  current : r.current = true →
    ∃ host ∈ sources, r.name ∈ probe.listed host ∧ probe.running? host = some r.name

/-- The releases of a history stem from the hosts that answer. -/
theorem Config.stemsFrom_of_mem (h : c.history probe query how = .ok report)
    (hr : r ∈ report.value.releases) : r.StemsFrom probe (c.answering probe query) := by
  have gathers := (Config.gathered_history h).gathers r hr
  constructor
  · exact exists_release_seen_iff.mp gathers.seen
  · intro x hx
    exact (Config.mem_hostNames_iff h hr x).mp hx
  · intro x hx
    obtain ⟨host, hh, hl, hshort⟩ := exists_sighting_iff.mp ((gathers.hosts x).mp hx)
    rw [Config.shortName_of_mem (Config.mem_answering.mp hh).1] at hshort
    exact ⟨host, hh, hl, hshort⟩
  · intro hcurrent
    obtain ⟨host, hh, hl, hruns⟩ := exists_sighting_iff.mp (gathers.current.mp hcurrent)
    exact ⟨host, hh, hl, by simpa using hruns⟩

/-- A host that fails is on no release of a history. -/
theorem Config.not_mem_hostNames_of_fails (h : c.history probe query how = .ok report)
    (hr : r ∈ report.value.releases) {host : Host} (hmem : host ∈ c.hosts.toList)
    (hfails : probe.answers host = false) : host.name ∉ r.hostNames := by
  intro hx
  obtain ⟨other, hother, -, hname⟩ := (Config.stemsFrom_of_mem h hr).hostNames _ hx
  obtain ⟨hothermem, -, hanswers⟩ := Config.mem_answering.mp hother
  -- names are distinct, so the host that lists the release is the one that fails
  obtain rfl : other = host := Roster.eq_of_name_eq hothermem hmem hname
  rw [hfails] at hanswers
  cases hanswers

/-! ### Workers that the system supplies -/

/-- No status table is collected exactly if there are several hosts to be asked by several workers,
and the system refuses these. -/
theorem Config.collectStatus_eq_error_iff (c : Config) (probe : Probe) {e : Batch.PoolError} :
    (c.collectStatus probe supply jobs).value = .error e ↔
      1 < jobs ∧ 1 < c.hosts.toList.length ∧ supply.pool jobs = .error e :=
  Batch.Supply.run_value_eq_error_iff

/-- Where so many workers are served, a status table is collected as on some workers. -/
theorem Config.exists_collectStatus_eq (c : Config) (probe : Probe) (served : supply.Serves jobs) :
    ∃ how, c.collectStatus probe supply jobs = (c.status probe how).map .ok := by
  obtain ⟨schedule, told⟩ := Batch.Supply.exists_run_eq served c.hosts.toList.length fun schedule =>
    c.status probe ⟨jobs, schedule⟩
  exact ⟨⟨jobs, schedule⟩, told⟩

/-- No history is collected, although all hosts to be asked are known, exactly if there are several
of them to be asked by several workers, and the system refuses these. -/
theorem Config.collectHistory_eq_error_iff (c : Config) (probe : Probe) {hosts : List Host}
    (asked : query.hosts c = .ok hosts) {e : Batch.PoolError} :
    (∃ events, c.collectHistory probe query supply jobs = .ok ⟨.error e, events⟩) ↔
      1 < jobs ∧ 1 < hosts.length ∧ supply.pool jobs = .error e := by
  simp only [Config.collectHistory, asked, bind, Except.bind, pure, Except.pure, Except.ok.injEq,
    Batch.Supply.run_eq_error_iff, exists_and_left, exists_eq, and_true]

/-- Where so many workers are served, a history is collected exactly if the query does not name a
host that is none of the configuration. -/
theorem Config.collectHistory_eq_ok_iff (c : Config) (probe : Probe) (query : HistoryQuery)
    (served : supply.Serves jobs) :
    (∃ report events, c.collectHistory probe query supply jobs = .ok ⟨.ok report, events⟩) ↔
      ∀ n ∈ query.host, c.hosts.contains n = true := by
  constructor
  · rintro ⟨report, events, collected⟩
    obtain ⟨how, h⟩ := Config.history_of_collectHistory collected
    exact (c.history_eq_ok_iff probe query how).mp ⟨_, h⟩
  · exact c.exists_collectHistory_eq_ok probe query served

/-! ### All hosts -/

/-- Every host is accounted for once, whatever fails and however many hosts are asked at a time, as
long as the system serves so many workers, by a probe that labels its errors. There is a status
table: its rows are the answers of the hosts that answer, its errors those of the hosts that fail,
both in the order of the hosts, and together they name every host once. There is a history unless
the query names an unknown host; it tells which hosts were asked, its errors are those of the hosts
among these that fail, in the same order, and its releases stem from the others. -/
theorem Config.hosts_accounted_for (c : Config) (labels : probe.LabelsErrors)
    (query : HistoryQuery) (served : supply.Serves jobs) :
    (∃ table events, c.collectStatus probe supply jobs = ⟨.ok table, events⟩ ∧
      (table.rows =
        c.hosts.toList.filterMap fun host =>
          (probe.status host).toOption.map (StatusRow.mk host.name)) ∧
      (table.failed =
        c.hosts.toList.filterMap fun host => HostError.of? (probe.status host)) ∧
      (table.hostNames ++ table.failedHosts).Perm c.hosts.names) ∧
      ((∃ report events, c.collectHistory probe query supply jobs = .ok ⟨.ok report, events⟩) ↔
        ∀ n ∈ query.host, c.hosts.contains n = true) ∧
      ∀ report events, c.collectHistory probe query supply jobs = .ok ⟨.ok report, events⟩ →
        report.queried = (c.hosts.toList.filter query.picks).map Host.name ∧
        (report.failed =
          (c.hosts.toList.filter query.picks).filterMap fun host =>
            HostError.of? (probe.releases host)) ∧
        (report.failedHosts =
          ((c.hosts.toList.filter query.picks).filter fun host => !probe.answers host).map
            Host.name) ∧
        ∀ r ∈ report.releases, r.StemsFrom probe (c.answering probe query) ∧
          ∀ host ∈ c.hosts.toList, probe.answers host = false → host.name ∉ r.hostNames := by
  refine ⟨?_, c.collectHistory_eq_ok_iff probe query served, ?_⟩
  · obtain ⟨how, told⟩ := c.exists_collectStatus_eq probe served
    exact ⟨(c.status probe how).value, (c.status probe how).events, told, c.status_rows probe how,
      c.status_failed probe how, c.status_names_perm labels how⟩
  intro report events collected
  obtain ⟨how, h⟩ := Config.history_of_collectHistory collected
  obtain ⟨-, hqueried, -⟩ := Config.history_spec h
  have hfailed := Config.history_failed h
  refine ⟨hqueried, hfailed, ?_, ?_⟩
  · rw [History.failedHosts, hfailed]
    exact map_host_errors labels.releases _
  · intro r hr
    refine ⟨Config.stemsFrom_of_mem h hr, ?_⟩
    intro host hmem hfails
    exact Config.not_mem_hostNames_of_fails h hr hmem hfails

/-- What the hosts of the environment in which two share an alias answer, where one of these two
tells its status and no other host does. -/
def patchyProbe : Probe where
  releases := aliasedProbe.releases
  status host :=
    if host.name = "web.eu" then .ok ⟨.running, ∅⟩
    else .error ⟨host.name, .malformed "one state per service expected"⟩

/-- The host that tells its status is between two that do not, and one of these lists releases. -/
theorem aliasedConfig_accounted_for :
    patchyProbe.LabelsErrors ∧ Batch.Supply.plenty.Serves 2 ∧
      (∃ table events, aliasedConfig.collectStatus patchyProbe .plenty 2 = ⟨.ok table, events⟩ ∧
        table.hostNames = ["web.eu"] ∧ table.failedHosts = ["web.us", "db"]) ∧
      ∃ report events, aliasedConfig.collectHistory patchyProbe ⟨none, false, false, false⟩
          .plenty 2 = .ok ⟨.ok report, events⟩ ∧
        report.queried = ["web.us", "web.eu", "db"] ∧ report.failedHosts = ["db"] := by
  have labels : patchyProbe.LabelsErrors := by
    constructor
    · intro host e h
      simp only [patchyProbe, aliasedProbe] at h
      split_ifs at h
      cases h
      rfl
    · intro host e h
      simp only [patchyProbe] at h
      split_ifs at h
      cases h
      rfl
  have served := Batch.Supply.plenty_serves 2
  obtain ⟨⟨table, events, collected, rows, failed, -⟩, known, history⟩ :=
    Config.hosts_accounted_for aliasedConfig labels ⟨none, false, false, false⟩ served
  obtain ⟨report, events', h⟩ := known.mpr (by simp)
  obtain ⟨queried, -, failedHosts, -⟩ := history report events' h
  refine ⟨labels, served, ⟨table, events, collected, ?_, ?_⟩, report, events', h, ?_, ?_⟩
  · rw [StatusTable.hostNames, rows]
    rfl
  · rw [StatusTable.failedHosts, failed]
    rfl
  · rw [queried]
    rfl
  · rw [failedHosts]
    rfl

end Rollout
