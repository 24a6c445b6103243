import Rollout.Fleet.Sweep

/-!
# Release history of an environment

Every host tells which releases it keeps and which of them it runs. The answers are taken apart
into sightings, one for each release on each host, and put together again by release: newest
first, the names of releases being such that later ones are greater.

## Main definitions

* `Sighting` — a release seen on a host
* `Release`, `Release.gather` — a release on all hosts that keep it, from its sightings
* `HistoryQuery`, `History` — a question for the history, and the answer
* `Config.history`, `Config.collectHistory` — asking the hosts of a configuration, on workers that
  are there or that the system has yet to supply
* `History.entries`, `History.current?`, `History.previous?` — what is shown
-/

namespace Rollout

/-- A release seen on a host. -/
structure Sighting where
  release : String
  host : String
  current : Bool
deriving DecidableEq, Repr

/-- The sightings that a host's answer adds. -/
def Sighting.absorb (seen : List Sighting) (host : String) (answer : ReleaseList) :
    List Sighting :=
  seen ++ answer.names.map fun release => ⟨release, host, answer.current == some release⟩

/-- A release on all hosts that keep it. Hosts are listed by their aliases, and by their names,
since two hosts may share an alias. -/
structure Release where
  name : String
  hosts : NameSet
  hostNames : NameSet
  current : Bool
deriving DecidableEq

namespace Release

/-- A release that was seen once. -/
def ofSighting (shortName : String → String) (s : Sighting) : Release :=
  ⟨s.release, .ofList [shortName s.host], .ofList [s.host], s.current⟩

/-- A release with one more sighting. -/
def add (shortName : String → String) (r : Release) (s : Sighting) : Release :=
  { r with
    hosts := r.hosts.insert (shortName s.host)
    hostNames := r.hostNames.insert s.host
    current := r.current || s.current }

/-- Puts sightings together, those of one release standing in a row; `open?` is the release of
the row so far. -/
def gatherRows (shortName : String → String) (open? : Option Release) :
    List Sighting → List Release
  | [] => open?.toList
  | s :: rest =>
    match open? with
    | none => gatherRows shortName (some (ofSighting shortName s)) rest
    | some r =>
      if r.name = s.release then gatherRows shortName (some (r.add shortName s)) rest
      else r :: gatherRows shortName (some (ofSighting shortName s)) rest

/-- The releases of some sightings, those with greater names first. -/
def gather (shortName : String → String) (sightings : List Sighting) : List Release :=
  gatherRows shortName none (sightings.mergeSort fun a b => decide (b.release ≤ a.release))

/-- A release as JSON. -/
def toJson (r : Release) : Json :=
  .object [("name", .string r.name), ("hosts", .array (r.hosts.toList.map .string)),
    ("current", .bool r.current)]

end Release

/-- Whether every host that answered keeps a release. -/
inductive Coverage where
  | complete
  | incomplete
deriving DecidableEq, Repr

/-- A coverage in one word. -/
def Coverage.label : Coverage → String
  | .complete => "complete"
  | .incomplete => "partial"

/-- Which hosts are asked for their history, and which releases are wanted. -/
structure HistoryQuery where
  host : Option String
  all : Bool
  current : Bool
  previous : Bool
deriving DecidableEq, Repr

namespace HistoryQuery

/-- Whether only releases count that every host keeps. To ask for the current or the previous
release is to ask for this, unless one host was picked. -/
def onlyComplete (q : HistoryQuery) : Bool :=
  q.all || ((q.current || q.previous) && q.host.isNone)

end HistoryQuery

/-- The picked host is none of the environment. -/
structure UnknownHost where
  host : String
  environment : String
deriving DecidableEq, Repr

/-- An unknown host in words. -/
def UnknownHost.message (e : UnknownHost) : String :=
  "host '" ++ e.host ++ "' is not defined in environment '" ++ e.environment ++ "'"

/-- The hosts that are asked: the picked one, or all in the order of the configuration. -/
def HistoryQuery.hosts (q : HistoryQuery) (c : Config) : Except UnknownHost (List Host) :=
  match q.host with
  | none => .ok c.hosts.toList
  | some host =>
    match c.hosts.get? host with
    | some h => .ok [h]
    | none => .error ⟨host, c.environment⟩

/-- A release with its coverage. -/
structure HistoryEntry where
  release : Release
  coverage : Coverage
deriving DecidableEq

/-- A release with its coverage as JSON. -/
def HistoryEntry.toJson (e : HistoryEntry) : Json :=
  .ofMembers [("coverage", .string e.coverage.label), ("current", .bool e.release.current),
    ("hosts", .array (e.release.hosts.toList.map .string)), ("name", .string e.release.name)]

/-- The history of an environment: all releases, newest first, the hosts that were asked and the
questions that failed. -/
structure History where
  environment : String
  releases : List Release
  queried : List String
  failed : List HostError
  onlyComplete : Bool
deriving DecidableEq

namespace History

/-- The number of hosts that answered. -/
def reporting (h : History) : Nat := h.queried.length - h.failed.length

/-- The coverage of a release. A host that did not answer is not missed. -/
def coverage (h : History) (r : Release) : Coverage :=
  if h.reporting ≤ r.hostNames.size then .complete else .incomplete

/-- The releases to show, as the query wanted them. -/
def entries (h : History) : List HistoryEntry :=
  (h.releases.map fun r => ⟨r, h.coverage r⟩).filter fun e =>
    !h.onlyComplete || e.coverage == .complete

/-- The newest of the shown releases that some host runs. -/
def current? (h : History) : Option Release :=
  (h.entries.find? (·.release.current)).map HistoryEntry.release

/-- The release shown after the current one. -/
def previous? (h : History) : Option Release :=
  ((h.entries.dropWhile (!·.release.current))[1]?).map HistoryEntry.release

/-- The names of the hosts that did not answer. -/
def failedHosts (h : History) : List String := h.failed.map HostError.host

/-- A history as JSON. -/
def toJson (h : History) : Json :=
  .object [("environment", .string h.environment),
    ("releases", .array (h.releases.map Release.toJson)),
    ("queried", .array (h.queried.map .string)),
    ("failed", .array (h.failed.map HostError.toJson))]

end History

/-- The history that some hosts of a configuration tell. -/
def Config.historyOf (c : Config) (probe : Probe) (query : HistoryQuery) (hosts : List Host)
    (how : Sweep) : Batch.Reported History :=
  (sweep how [] probe.releases Sighting.absorb hosts).map fun result =>
    { environment := c.environment
      releases := Release.gather c.shortName result.value
      queried := hosts.map Host.name
      failed := result.failures.map Batch.Failure.error
      onlyComplete := query.onlyComplete }

/-- Asks hosts of a configuration for their releases, on workers that are there. -/
def Config.history (c : Config) (probe : Probe) (query : HistoryQuery) (how : Sweep) :
    Except UnknownHost (Batch.Reported History) := do
  return c.historyOf probe query (← query.hosts c) how

/-- Asks hosts of a configuration for their releases, so many at a time, on workers that the system
supplies or refuses. -/
def Config.collectHistory (c : Config) (probe : Probe) (query : HistoryQuery)
    (supply : Batch.Supply) (jobs : Nat) :
    Except UnknownHost (Batch.Reported (Except Batch.PoolError History)) := do
  let hosts ← query.hosts c
  return supply.run jobs hosts.length fun schedule =>
    c.historyOf probe query hosts ⟨jobs, schedule⟩

end Rollout
