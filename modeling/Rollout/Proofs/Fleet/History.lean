import Rollout.Proofs.Batch.Supply
import Rollout.Proofs.Fleet.Gathering
import Rollout.Proofs.Fleet.Sweep
import Rollout.Proofs.Roster

/-!
# What a history tells

A history is made in passing: answers are taken apart, sorted and put together, and coverage is
read off two numbers. This module says what it tells in terms of the hosts alone: which releases
the hosts that answer list, and which they run.

## Main definitions

* `Probe.answers`, `Probe.listed`, `Probe.running?` — what a host tells about its releases
* `HistoryQuery.picks` — the hosts that a query is about
* `Config.answering` — those of them that answer

## Main results

* `Config.history_releases_exact` — the releases of a history, each with the hosts that list it
* `Config.history_coverage_exact` — a release is complete exactly if every host that answers
  lists it
-/

namespace Rollout

namespace Probe

variable (probe : Probe) (host : Host)

/-- Whether a host answers the question for its releases. -/
def answers : Bool := Batch.succeeded (probe.releases host)

/-- The releases that a host lists; none if it does not answer. -/
def listed : List String :=
  match probe.releases host with
  | .ok answer => answer.names
  | .error _ => []

/-- The release that a host names as the one it runs, if it answers and names one. -/
def running? : Option String :=
  match probe.releases host with
  | .ok answer => answer.current
  | .error _ => none

/-- The sightings on a host. -/
def sightings : List Sighting :=
  (probe.listed host).map fun release =>
    ⟨release, host.name, probe.running? host == some release⟩

variable {probe host}

theorem answers_of_mem_listed {release : String} (h : release ∈ probe.listed host) :
    probe.answers host = true := by
  unfold listed at h
  unfold answers
  split at h
  case h_1 answer heq => rw [heq, Batch.succeeded]
  case h_2 e heq => simp at h

/-- Folding what comes of asking a host adds the sightings on it. -/
theorem foldInto_absorb (seen : List Sighting) :
    (taskOf probe.releases host).foldInto Sighting.absorb seen = seen ++ probe.sightings host := by
  unfold Batch.Task.foldInto sightings listed running? taskOf
  cases probe.releases host with
  | ok answer => rfl
  | error e => simp

end Probe

/-- Whether a query is about a host: about the one that it names, or about all. -/
def HistoryQuery.picks (query : HistoryQuery) (host : Host) : Bool :=
  query.host.all (host.name == ·)

/-- The hosts that a query is about and that answer. -/
def Config.answering (c : Config) (probe : Probe) (query : HistoryQuery) : List Host :=
  c.hosts.toList.filter fun host => query.picks host && probe.answers host

variable {c : Config} {probe : Probe} {query : HistoryQuery} {how : Sweep} {hosts : List Host}
  {report : Batch.Reported History} {r : Release} {supply : Batch.Supply} {jobs : Nat}
  {events : List Batch.Event}

theorem Config.mem_answering {host : Host} :
    host ∈ c.answering probe query ↔
      host ∈ c.hosts.toList ∧ query.picks host = true ∧ probe.answers host = true := by
  simp [Config.answering]

/-- No two of the hosts that answer share a name. -/
theorem Config.nodup_answering (c : Config) (probe : Probe) (query : HistoryQuery) :
    ((c.answering probe query).map Host.name).Nodup :=
  c.hosts.nodup.sublist (List.filter_sublist.map _)

/-! ### The hosts that are asked -/

/-- A query asks the hosts that it is about. -/
theorem HistoryQuery.eq_filter_of_hosts_eq_ok (h : query.hosts c = .ok hosts) :
    hosts = c.hosts.toList.filter query.picks := by
  unfold HistoryQuery.hosts at h
  unfold HistoryQuery.picks
  cases hq : query.host with
  | none => simpa [hq] using h.symm
  | some n =>
    simp only [hq, Option.all_some] at h ⊢
    -- names are distinct: the hosts with the name are the one that look-up finds
    rw [show (fun host : Host => host.name == n) = fun host => name host == n from rfl,
      Roster.filter_name_eq]
    cases hg : c.hosts.get? n with
    | none => simp [hg] at h
    | some host => simpa [hg] using h.symm

/-- A query that names a host of the configuration, or none, asks some hosts. -/
theorem HistoryQuery.exists_hosts_eq_ok (known : ∀ n ∈ query.host, c.hosts.contains n = true) :
    ∃ hosts, query.hosts c = .ok hosts := by
  unfold HistoryQuery.hosts
  cases hq : query.host with
  | none => exact ⟨_, rfl⟩
  | some n =>
    obtain ⟨host, hg⟩ := Option.isSome_iff_exists.mp (known n hq)
    exact ⟨[host], by simp [hg]⟩

/-! ### What a history is made of -/

/-- What is folded are the sightings on the hosts, one host after the other. -/
theorem sweep_absorb_value (how : Sweep) (probe : Probe) (hosts : List Host) :
    (sweep how [] probe.releases Sighting.absorb hosts).value.value =
      hosts.flatMap probe.sightings := by
  have folded (seen : List Sighting) :
      hosts.foldl (fun seen host =>
          (taskOf probe.releases host).foldInto Sighting.absorb seen) seen =
        seen ++ hosts.flatMap probe.sightings := by
    induction hosts generalizing seen with
    | nil => simp
    | cons host rest ih =>
      rw [List.foldl_cons, ih, Probe.foldInto_absorb, List.flatMap_cons, List.append_assoc]
  rw [sweep_value, folded, List.nil_append]

/-- A host that does not answer adds no sightings. -/
theorem flatMap_sightings_filter_answers (probe : Probe) (hosts : List Host) :
    (hosts.filter probe.answers).flatMap probe.sightings = hosts.flatMap probe.sightings := by
  induction hosts with
  | nil => rfl
  | cons host rest ih =>
    by_cases h : probe.answers host = true
    · rw [List.filter_cons_of_pos h, List.flatMap_cons, List.flatMap_cons, ih]
    · -- who does not answer lists nothing
      have none : probe.sightings host = [] := by
        cases hl : probe.listed host with
        | nil => simp [Probe.sightings, hl]
        | cons release _ =>
          have mem : release ∈ probe.listed host := hl ▸ List.mem_cons_self
          exact absurd (Probe.answers_of_mem_listed mem) h
      rw [List.filter_cons_of_neg h, List.flatMap_cons, none, List.nil_append, ih]

/-- A history holds the releases of the sightings on the hosts that answer, the names of the
hosts that were asked, and one error for each of these that did not answer. -/
theorem Config.history_spec (h : c.history probe query how = .ok report) :
    report.value.releases =
        Release.gather c.shortName ((c.answering probe query).flatMap probe.sightings) ∧
      report.value.queried = (c.hosts.toList.filter query.picks).map Host.name ∧
      report.value.failed.length + (c.answering probe query).length =
        report.value.queried.length ∧
      report.value.onlyComplete = query.onlyComplete := by
  cases hq : query.hosts c with
  | error e => simp [Config.history, hq, bind, Except.bind] at h
  | ok hosts =>
    simp only [Config.history, hq, bind, Except.bind, pure, Except.pure, Except.ok.injEq] at h
    have asked := HistoryQuery.eq_filter_of_hosts_eq_ok hq
    have answering : c.answering probe query = hosts.filter probe.answers := by
      rw [asked, List.filter_filter, Config.answering]
      exact List.filter_congr fun host _ => Bool.and_comm ..
    subst h
    refine ⟨?_, ?_, ?_, rfl⟩
    · rw [answering, flatMap_sightings_filter_answers, ← sweep_absorb_value how]
      rfl
    · rw [← asked]
      rfl
    · simp only [Config.historyOf, Batch.Reported.map, List.length_map, answering]
      exact length_sweep_failures how [] probe.releases Sighting.absorb hosts

theorem Config.exists_history_eq_ok (probe : Probe) (how : Sweep)
    (known : ∀ n ∈ query.host, c.hosts.contains n = true) :
    ∃ report, c.history probe query how = .ok report := by
  obtain ⟨hosts, hq⟩ := HistoryQuery.exists_hosts_eq_ok known
  exact ⟨_, by rw [Config.history, hq]; rfl⟩

/-- A history that is collected was told on workers that are there. -/
theorem Config.history_of_collectHistory {report : History}
    (h : c.collectHistory probe query supply jobs = .ok ⟨.ok report, events⟩) :
    ∃ how, c.history probe query how = .ok ⟨report, events⟩ := by
  cases hq : query.hosts c with
  | error e => simp [Config.collectHistory, hq, bind, Except.bind] at h
  | ok hosts =>
    simp only [Config.collectHistory, hq, bind, Except.bind, pure, Except.pure,
      Except.ok.injEq] at h
    obtain ⟨schedule, -, told⟩ := Batch.Supply.run_eq_ok_iff.mp h
    exact ⟨⟨jobs, schedule⟩, by rw [Config.history, hq, ← told]; rfl⟩

/-- Where so many workers are served, a history is collected as it is told on some workers. -/
theorem Config.exists_collectHistory_eq (c : Config) (probe : Probe) (query : HistoryQuery)
    (served : supply.Serves jobs) :
    ∃ how, c.collectHistory probe query supply jobs =
      (c.history probe query how).map (Batch.Reported.map .ok) := by
  unfold Config.collectHistory Config.history
  cases query.hosts c with
  | error e => exact ⟨⟨jobs, .inOrder⟩, rfl⟩
  | ok hosts =>
    obtain ⟨schedule, told⟩ := Batch.Supply.exists_run_eq served hosts.length fun schedule =>
      c.historyOf probe query hosts ⟨jobs, schedule⟩
    exact ⟨⟨jobs, schedule⟩, congrArg Except.ok told⟩

theorem Config.exists_collectHistory_eq_ok (c : Config) (probe : Probe) (query : HistoryQuery)
    (served : supply.Serves jobs) (known : ∀ n ∈ query.host, c.hosts.contains n = true) :
    ∃ report events, c.collectHistory probe query supply jobs = .ok ⟨.ok report, events⟩ := by
  obtain ⟨how, told⟩ := c.exists_collectHistory_eq probe query served
  obtain ⟨report, h⟩ := Config.exists_history_eq_ok probe how known
  exact ⟨report.value, report.events, by rw [told, h]; rfl⟩

/-! ### What a history tells -/

theorem Config.shortName_of_mem {host : Host} (h : host ∈ c.hosts.toList) :
    c.shortName host.name = host.shortName := by
  have found : c.hosts.get? host.name = some host := Roster.get?_eq_some_iff.mpr ⟨h, rfl⟩
  rw [Config.shortName, found]

/-- What was seen of a release was seen on the hosts that list it, once for each listing. -/
theorem exists_sighting_iff {hosts : List Host} {n : String} {p : Sighting → Prop} :
    (∃ s ∈ hosts.flatMap probe.sightings, s.release = n ∧ p s) ↔
      ∃ host ∈ hosts, n ∈ probe.listed host ∧
        p ⟨n, host.name, probe.running? host == some n⟩ := by
  simp only [List.mem_flatMap, Probe.sightings, List.mem_map]
  constructor
  · rintro ⟨_, ⟨host, hh, release, hl, rfl⟩, rfl, hp⟩
    exact ⟨host, hh, hl, hp⟩
  · rintro ⟨host, hh, hl, hp⟩
    exact ⟨_, ⟨host, hh, n, hl, rfl⟩, rfl, hp⟩

theorem exists_release_seen_iff {hosts : List Host} {n : String} :
    (∃ s ∈ hosts.flatMap probe.sightings, s.release = n) ↔
      ∃ host ∈ hosts, n ∈ probe.listed host := by
  simpa using @exists_sighting_iff probe hosts n fun _ => True

theorem Config.gathered_history (h : c.history probe query how = .ok report) :
    Release.Gathered c.shortName ((c.answering probe query).flatMap probe.sightings)
      report.value.releases :=
  (Config.history_spec h).1 ▸ Release.gathered_gather ..

theorem Config.mem_hostNames_iff (h : c.history probe query how = .ok report)
    (hr : r ∈ report.value.releases) (x : String) :
    x ∈ r.hostNames ↔
      ∃ host ∈ c.answering probe query, r.name ∈ probe.listed host ∧ host.name = x :=
  (((Config.gathered_history h).gathers r hr).hostNames x).trans exists_sighting_iff

/-- The history of an environment, for a query that names none but a host of it, with as many
workers as the system serves: the names of the releases strictly descend, a release is there exactly
if a host that answers lists it, and it comes with the names and the aliases of the hosts that list
it. It is current exactly if one of these hosts runs it. -/
theorem Config.history_releases_exact (c : Config) (probe : Probe) (query : HistoryQuery)
    (served : supply.Serves jobs) (known : ∀ n ∈ query.host, c.hosts.contains n = true) :
    ∃ report events, c.collectHistory probe query supply jobs = .ok ⟨.ok report, events⟩ ∧
      (∀ n, (∃ r ∈ report.releases, r.name = n) ↔
        ∃ host ∈ c.answering probe query, n ∈ probe.listed host) ∧
      report.releases.Pairwise (fun a b => b.name < a.name) ∧
      ∀ r ∈ report.releases,
        (∀ x, x ∈ r.hostNames ↔
          ∃ host ∈ c.answering probe query, r.name ∈ probe.listed host ∧ host.name = x) ∧
        (∀ x, x ∈ r.hosts ↔
          ∃ host ∈ c.answering probe query, r.name ∈ probe.listed host ∧ host.shortName = x) ∧
        (r.current = true ↔
          ∃ host ∈ c.answering probe query,
            r.name ∈ probe.listed host ∧ probe.running? host = some r.name) := by
  obtain ⟨report, events, collected⟩ := c.exists_collectHistory_eq_ok probe query served known
  obtain ⟨how, h⟩ := Config.history_of_collectHistory collected
  have gathered := Config.gathered_history h
  refine ⟨report, events, collected, fun n => ⟨?_, ?_⟩, gathered.descending,
    fun r hr => ⟨?_, ?_, ?_⟩⟩
  · rintro ⟨r, hr, rfl⟩
    exact exists_release_seen_iff.mp (gathered.gathers r hr).seen
  · intro listed
    obtain ⟨s, hs, rfl⟩ := exists_release_seen_iff.mpr listed
    exact gathered.complete s hs
  · exact Config.mem_hostNames_iff h hr
  · intro x
    rw [(gathered.gathers r hr).hosts, exists_sighting_iff]
    refine exists_congr fun host => and_congr_right fun hh => ?_
    rw [Config.shortName_of_mem (Config.mem_answering.mp hh).1]
  · rw [(gathered.gathers r hr).current, exists_sighting_iff]
    simp only [beq_iff_eq]

/-! An environment in which two hosts share an alias. The first of them lists a release twice and
runs one that it does not list; a third host does not answer. -/

/-- A host of the environment. -/
def aliasedHost (name shortName : String) : Host where
  name
  shortName
  credentials := ⟨none, none, none, none⟩
  services := ∅
  environment := "production"
  app := ⟨"shop", "/srv/shop"⟩
  hooks := ∅

/-- The environment. -/
def aliasedConfig : Config where
  app := ⟨"shop", "/srv/shop"⟩
  environment := "production"
  hosts := ⟨[aliasedHost "web.us" "web", aliasedHost "web.eu" "web", aliasedHost "db" "db"],
    by decide⟩
  hooks := ∅

/-- What its hosts answer. -/
def aliasedProbe : Probe where
  releases host :=
    if host.name = "web.us" then .ok ⟨some "r3", ["r1", "r2", "r1"]⟩
    else if host.name = "web.eu" then .ok ⟨some "r2", ["r2"]⟩
    else .error ⟨host.name, .unreachable "no answer"⟩
  status host := .error ⟨host.name, .unreachable "no answer"⟩

/-- A release that a host runs without listing it is in no history. -/
theorem aliasedConfig_releases :
    Batch.Supply.plenty.Serves 4 ∧
      (∀ n ∈ some "web.us", aliasedConfig.hosts.contains n = true) ∧
      ∃ report events, aliasedConfig.collectHistory aliasedProbe
          ⟨some "web.us", false, false, false⟩ .plenty 4 = .ok ⟨.ok report, events⟩ ∧
        (∃ r ∈ report.releases, r.name = "r1") ∧
        ¬ ∃ r ∈ report.releases, r.name = "r3" := by
  have served := Batch.Supply.plenty_serves 4
  have known : ∀ n ∈ some "web.us", aliasedConfig.hosts.contains n = true := by decide
  obtain ⟨report, events, h, names, -, -⟩ := Config.history_releases_exact aliasedConfig
    aliasedProbe ⟨some "web.us", false, false, false⟩ served known
  refine ⟨served, known, report, events, h, (names "r1").mpr (by decide), fun listed => ?_⟩
  exact absurd ((names "r3").mp listed) (by decide)

/-- A release is held by as many hosts as there are hosts that answer and list it. Names count
here: hosts may share an alias, and no two share a name. -/
theorem Config.size_hostNames (h : c.history probe query how = .ok report)
    (hr : r ∈ report.value.releases) :
    r.hostNames.size =
      ((c.answering probe query).filter fun host => r.name ∈ probe.listed host).length := by
  -- two lists without repetitions and with the same members have the same length
  have distinct : (((c.answering probe query).filter fun host =>
      r.name ∈ probe.listed host).map Host.name).Nodup :=
    (c.nodup_answering probe query).sublist (List.filter_sublist.map _)
  have perm : r.hostNames.toList.Perm (((c.answering probe query).filter fun host =>
      r.name ∈ probe.listed host).map Host.name) := by
    rw [List.perm_ext_iff_of_nodup r.hostNames.nodup distinct]
    intro x
    rw [← NameSet.mem_def, Config.mem_hostNames_iff h hr]
    simp [and_assoc]
  rw [NameSet.size, perm.length_eq, List.length_map]

/-- The number of hosts that answered is that of the hosts that were asked less that of the
errors, of which there are no more. -/
theorem Config.reporting_eq (h : c.history probe query how = .ok report) :
    report.value.failed.length ≤ report.value.queried.length ∧
      report.value.reporting = (c.answering probe query).length := by
  obtain ⟨-, -, counted, -⟩ := Config.history_spec h
  unfold History.reporting
  omega

theorem Config.coverage_eq_complete_iff (h : c.history probe query how = .ok report)
    (hr : r ∈ report.value.releases) :
    report.value.coverage r = .complete ↔
      ∀ host ∈ c.answering probe query, r.name ∈ probe.listed host := by
  have reporting := (Config.reporting_eq h).2
  have held := Config.size_hostNames h hr
  have atMost := List.length_filter_le (fun host => decide (r.name ∈ probe.listed host))
    (c.answering probe query)
  -- the hosts that list the release are some of those that answer: all of them, if as many
  have all : report.value.reporting ≤ r.hostNames.size ↔
      ((c.answering probe query).filter fun host => r.name ∈ probe.listed host).length =
        (c.answering probe query).length := by
    omega
  rw [List.length_filter_eq_length_iff] at all
  simpa [History.coverage] using all

/-- The shown releases of a history are its releases, or the complete ones of them. -/
theorem History.entries_eq (h : History) :
    h.entries =
      (if h.onlyComplete then h.releases.filter fun r => h.coverage r == .complete
        else h.releases).map fun r => ⟨r, h.coverage r⟩ := by
  unfold History.entries
  rw [List.filter_map]
  cases h.onlyComplete with
  | true => simp [Function.comp_def]
  | false => simp [Function.comp_def]

/-- What a history tells about coverage, although it only compares numbers: the hosts that it
counts as having answered are those that did, a release is complete exactly if each of these
lists it, and the shown releases are all of them or, where the query wants that, the complete
ones. -/
theorem Config.history_coverage_exact {report : History}
    (h : c.collectHistory probe query supply jobs = .ok ⟨.ok report, events⟩) :
    report.failed.length ≤ report.queried.length ∧
      report.reporting = (c.answering probe query).length ∧
      (∀ r ∈ report.releases,
        report.coverage r = .complete ↔
          ∀ host ∈ c.answering probe query, r.name ∈ probe.listed host) ∧
      report.entries =
        (if query.onlyComplete then
          report.releases.filter fun r =>
            ∀ host ∈ c.answering probe query, r.name ∈ probe.listed host
        else report.releases).map fun r => ⟨r, report.coverage r⟩ := by
  obtain ⟨how, h⟩ := Config.history_of_collectHistory h
  obtain ⟨noMore, reporting⟩ := Config.reporting_eq h
  refine ⟨noMore, reporting, fun r hr => Config.coverage_eq_complete_iff h hr, ?_⟩
  have complete : (report.releases.filter fun r => report.coverage r == .complete) =
      report.releases.filter fun r =>
        ∀ host ∈ c.answering probe query, r.name ∈ probe.listed host := by
    refine List.filter_congr fun r hr => ?_
    rw [← Bool.coe_iff_coe, beq_iff_eq, decide_eq_true_eq]
    exact Config.coverage_eq_complete_iff h hr
  have onlyComplete : report.onlyComplete = query.onlyComplete := (Config.history_spec h).2.2.2
  rw [History.entries_eq, onlyComplete, complete]

/-- With two hosts that answer and share an alias, a release is complete if both list it. -/
theorem aliasedConfig_coverage :
    ∃ report events, aliasedConfig.collectHistory aliasedProbe ⟨none, true, false, false⟩
        .plenty 4 = .ok ⟨.ok report, events⟩ ∧
      report.reporting = 2 ∧
      ∀ r ∈ report.releases, report.coverage r = .complete ↔ r.name = "r2" := by
  obtain ⟨report, events, h⟩ : ∃ report events, aliasedConfig.collectHistory aliasedProbe
      ⟨none, true, false, false⟩ .plenty 4 = .ok ⟨.ok report, events⟩ := ⟨_, _, rfl⟩
  obtain ⟨-, reporting, coverage, -⟩ := Config.history_coverage_exact h
  refine ⟨report, events, h, reporting.trans (by decide), fun r hr => (coverage r hr).trans ?_⟩
  have answering : aliasedConfig.answering aliasedProbe ⟨none, true, false, false⟩ =
      [aliasedHost "web.us" "web", aliasedHost "web.eu" "web"] := by decide
  have first : aliasedProbe.listed (aliasedHost "web.us" "web") = ["r1", "r2", "r1"] := by decide
  have second : aliasedProbe.listed (aliasedHost "web.eu" "web") = ["r2"] := by decide
  rw [answering, List.forall_mem_cons, List.forall_mem_singleton, first, second]
  constructor
  · rintro ⟨-, hn⟩
    exact List.mem_singleton.mp hn
  · intro hn
    simp [hn]

end Rollout
