import Rollout.Proofs.Fleet.History

/-!
# Histories of different configurations

What a history says about releases rests on the hosts that answer, and on them only as a set. The
same environment may be declared in another order, with further hosts that do not answer, and its
hosts may list their releases in another order or more than once: the history says the same.

## Main definitions

* `Probe.SameAnswer` — two hosts tell the same of themselves and of their releases
* `Config.SameAnswers` — each host that answers has its like in the other configuration
* `History.SaysSame` — two histories say the same of every release

## Main results

* `Config.SameAnswers.exists_iff` — what hosts that tell the same have in common, both
  configurations have
* `Config.SameAnswers.length_eq` — as many hosts answer in both
* `Config.history_saysSame` — both histories say the same
-/

namespace Rollout

/-- Two hosts tell the same: their name and alias, the release that they run, and the releases
that they list, in any order and any number of times. -/
structure Probe.SameAnswer (probe probe' : Probe) (host host' : Host) : Prop where
  name : host.name = host'.name
  shortName : host.shortName = host'.shortName
  running : probe.running? host = probe'.running? host'
  listed : ∀ n, n ∈ probe.listed host ↔ n ∈ probe'.listed host'

/-- The hosts that answer in two configurations are the same as sets: each of them has one in the
other configuration that tells the same. Of the hosts that do not answer nothing is said, nor of
the order in which hosts are declared. -/
structure Config.SameAnswers (c c' : Config) (probe probe' : Probe) (query query' : HistoryQuery) :
    Prop where
  there : ∀ host ∈ c.answering probe query,
    ∃ host' ∈ c'.answering probe' query', probe.SameAnswer probe' host host'
  back : ∀ host' ∈ c'.answering probe' query',
    ∃ host ∈ c.answering probe query, probe.SameAnswer probe' host host'

/-- Two histories say the same of every release, and show the same. -/
structure History.SaysSame (h h' : History) : Prop where
  releases : h.releases = h'.releases
  coverage : ∀ r, h.coverage r = h'.coverage r
  entries : h.entries = h'.entries
  current : h.current? = h'.current?
  previous : h.previous? = h'.previous?

variable {c c' : Config} {probe probe' : Probe} {query query' : HistoryQuery} {how how' : Sweep}
  {host host' : Host} {report report' : Batch.Reported History} {supply supply' : Batch.Supply}
  {jobs jobs' : Nat}

/-- On two hosts that tell the same, the same is seen. -/
theorem Probe.SameAnswer.mem_sightings_iff (h : probe.SameAnswer probe' host host') (s : Sighting) :
    s ∈ probe.sightings host ↔ s ∈ probe'.sightings host' := by
  simp only [Probe.sightings, List.mem_map, h.listed, h.name, h.running]

namespace Config.SameAnswers

/-- What hosts that tell the same have in common is there in both configurations or in neither. -/
theorem exists_iff (h : c.SameAnswers c' probe probe' query query') {p q : Host → Prop}
    (agree : ∀ host host', probe.SameAnswer probe' host host' → (p host ↔ q host')) :
    (∃ host ∈ c.answering probe query, p host) ↔
      ∃ host' ∈ c'.answering probe' query', q host' := by
  constructor
  · rintro ⟨host, hh, hp⟩
    obtain ⟨host', hh', same⟩ := h.there host hh
    exact ⟨host', hh', (agree host host' same).mp hp⟩
  · rintro ⟨host', hh', hq⟩
    obtain ⟨host, hh, same⟩ := h.back host' hh'
    exact ⟨host, hh, (agree host host' same).mpr hq⟩

/-- The same is seen on the hosts that answer. -/
theorem mem_sightings_iff (h : c.SameAnswers c' probe probe' query query') (s : Sighting) :
    s ∈ (c.answering probe query).flatMap probe.sightings ↔
      s ∈ (c'.answering probe' query').flatMap probe'.sightings := by
  rw [List.mem_flatMap, List.mem_flatMap]
  exact h.exists_iff fun host host' same => same.mem_sightings_iff s

/-- A host on which something was seen has the same alias in both configurations. Other names may
well be aliased differently. -/
theorem shortName_eq (h : c.SameAnswers c' probe probe' query query') {s : Sighting}
    (seen : s ∈ (c.answering probe query).flatMap probe.sightings) :
    c.shortName s.host = c'.shortName s.host := by
  obtain ⟨host, hh, seen⟩ := List.mem_flatMap.mp seen
  obtain ⟨release, -, rfl⟩ := List.mem_map.mp seen
  obtain ⟨host', hh', same⟩ := h.there host hh
  calc
    c.shortName host.name = host.shortName := shortName_of_mem (mem_answering.mp hh).1
    _ = host'.shortName := same.shortName
    _ = c'.shortName host'.name := (shortName_of_mem (mem_answering.mp hh').1).symm
    _ = c'.shortName host.name := by rw [same.name]

/-- As many hosts answer, since no two hosts of a configuration share a name. -/
theorem length_eq (h : c.SameAnswers c' probe probe' query query') :
    (c.answering probe query).length = (c'.answering probe' query').length := by
  have perm : ((c.answering probe query).map Host.name).Perm
      ((c'.answering probe' query').map Host.name) := by
    rw [List.perm_ext_iff_of_nodup (c.nodup_answering ..) (c'.nodup_answering ..)]
    intro x
    rw [List.mem_map, List.mem_map]
    exact h.exists_iff fun host host' same => by rw [same.name]
  simpa using perm.length_eq

end Config.SameAnswers

/-- Histories with the same releases say the same, if as many hosts answered and both or none are
to show complete releases only. -/
theorem History.SaysSame.of_eq {h h' : History} (releases : h.releases = h'.releases)
    (reporting : h.reporting = h'.reporting) (wanted : h.onlyComplete = h'.onlyComplete) :
    h.SaysSame h' := by
  have coverage : h.coverage = h'.coverage := by
    funext r
    rw [History.coverage, History.coverage, reporting]
  -- what is current and what came before it is read off the entries
  have entries : h.entries = h'.entries := by
    rw [History.entries, History.entries, releases, coverage, wanted]
  exact {
    releases
    coverage := congrFun coverage
    entries
    current := by rw [History.current?, History.current?, entries]
    previous := by rw [History.previous?, History.previous?, entries] }

/-- Histories for which the same hosts answered hold the same releases. -/
theorem Config.releases_eq_of_sameAnswers (h : c.history probe query how = .ok report)
    (h' : c'.history probe' query' how' = .ok report')
    (same : c.SameAnswers c' probe probe' query query') :
    report.value.releases = report'.value.releases := by
  -- both gather what was seen in the second configuration
  have gathered : Release.Gathered c'.shortName
      ((c'.answering probe' query').flatMap probe'.sightings) report.value.releases :=
    (Config.gathered_history h).of_agree same.mem_sightings_iff fun _ seen => same.shortName_eq seen
  exact gathered.unique (Config.gathered_history h')

/-- Whatever else two configurations declare and in whatever order, whatever hosts fail besides
and however the hosts are asked, as long as the system serves so many workers: if the same hosts
answer, and they answer the same, then asking all hosts gives histories that say the same of every
release. -/
theorem Config.history_saysSame (served : supply.Serves jobs) (served' : supply'.Serves jobs')
    (all current previous : Bool)
    (same : c.SameAnswers c' probe probe' ⟨none, all, current, previous⟩
      ⟨none, all, current, previous⟩) :
    ∃ report events report' events',
      c.collectHistory probe ⟨none, all, current, previous⟩ supply jobs =
          .ok ⟨.ok report, events⟩ ∧
        c'.collectHistory probe' ⟨none, all, current, previous⟩ supply' jobs' =
          .ok ⟨.ok report', events'⟩ ∧
        report.SaysSame report' := by
  -- no host is picked, so none is unknown
  obtain ⟨report, events, collected⟩ :=
    c.exists_collectHistory_eq_ok probe ⟨none, all, current, previous⟩ served (by simp)
  obtain ⟨report', events', collected'⟩ :=
    c'.exists_collectHistory_eq_ok probe' ⟨none, all, current, previous⟩ served' (by simp)
  obtain ⟨how, h⟩ := history_of_collectHistory collected
  obtain ⟨how', h'⟩ := history_of_collectHistory collected'
  refine ⟨report, events, report', events', collected, collected', .of_eq ?_ ?_ ?_⟩
  · exact Config.releases_eq_of_sameAnswers h h' same
  · exact (Config.reporting_eq h).2.trans (same.length_eq.trans (Config.reporting_eq h').2.symm)
  · exact (Config.history_spec h).2.2.2.trans (Config.history_spec h').2.2.2.symm

/-! The environment with the shared alias once more, declared in another order and with one more
host that does not answer. The hosts that answer list their releases in another order, one of them
twice. -/

/-- The environment. -/
def reorderedConfig : Config where
  app := ⟨"shop", "/srv/shop"⟩
  environment := "production"
  hosts := ⟨[aliasedHost "cache" "web", aliasedHost "web.eu" "web", aliasedHost "db" "db",
    aliasedHost "web.us" "web"], by decide⟩
  hooks := ∅

/-- What its hosts answer. -/
def reorderedProbe : Probe where
  releases host :=
    if host.name = "web.us" then .ok ⟨some "r3", ["r2", "r1"]⟩
    else if host.name = "web.eu" then .ok ⟨some "r2", ["r2", "r2"]⟩
    else .error ⟨host.name, .malformed "no list"⟩
  status host := .error ⟨host.name, .malformed "no list"⟩

/-- Both hosts of the environment that answer tell the same as before. -/
theorem reorderedProbe_sameAnswer :
    ∀ host ∈ [aliasedHost "web.us" "web", aliasedHost "web.eu" "web"],
      aliasedProbe.SameAnswer reorderedProbe host host := by
  rw [List.forall_mem_cons, List.forall_mem_singleton]
  constructor
  · refine ⟨rfl, rfl, rfl, fun n => ?_⟩
    change n ∈ ["r1", "r2", "r1"] ↔ n ∈ ["r2", "r1"]
    simp only [List.mem_cons, List.not_mem_nil, or_false]
    tauto
  · refine ⟨rfl, rfl, rfl, fun n => ?_⟩
    change n ∈ ["r2"] ↔ n ∈ ["r2", "r2"]
    simp

/-- The history of the reordered environment says what that of the first one says. -/
theorem reorderedConfig_saysSame :
    aliasedConfig.SameAnswers reorderedConfig aliasedProbe reorderedProbe
        ⟨none, false, true, true⟩ ⟨none, false, true, true⟩ ∧
      ∃ report events report' events',
        aliasedConfig.collectHistory aliasedProbe ⟨none, false, true, true⟩ .plenty 1 =
            .ok ⟨.ok report, events⟩ ∧
          reorderedConfig.collectHistory reorderedProbe ⟨none, false, true, true⟩ .plenty 4 =
            .ok ⟨.ok report', events'⟩ ∧
          report.SaysSame report' := by
  have first : aliasedConfig.answering aliasedProbe ⟨none, false, true, true⟩ =
      [aliasedHost "web.us" "web", aliasedHost "web.eu" "web"] := by decide
  have second : reorderedConfig.answering reorderedProbe ⟨none, false, true, true⟩ =
      [aliasedHost "web.eu" "web", aliasedHost "web.us" "web"] := by decide
  have same : aliasedConfig.SameAnswers reorderedConfig aliasedProbe reorderedProbe
      ⟨none, false, true, true⟩ ⟨none, false, true, true⟩ := by
    constructor
    · intro host hh
      rw [first] at hh
      exact ⟨host, by simpa [second, or_comm] using hh, reorderedProbe_sameAnswer host hh⟩
    · intro host hh
      have hh' : host ∈ [aliasedHost "web.us" "web", aliasedHost "web.eu" "web"] := by
        simpa [second, or_comm] using hh
      exact ⟨host, first ▸ hh', reorderedProbe_sameAnswer host hh'⟩
  exact ⟨same, Config.history_saysSame (Batch.Supply.plenty_serves 1)
    (Batch.Supply.plenty_serves 4) false true true same⟩

end Rollout
