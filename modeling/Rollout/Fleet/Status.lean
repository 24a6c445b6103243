import Rollout.Fleet.Sweep

/-!
# Status of an environment

## Main definitions

* `StatusTable` — the status of the hosts that answered
* `Config.status`, `Config.collectStatus` — asking the hosts of a configuration, on workers that
  are there or that the system has yet to supply
-/

namespace Rollout

/-- The status of one host. -/
structure StatusRow where
  host : String
  status : HostStatus
deriving DecidableEq

/-- The status of the hosts that answered, in the order of the configuration, and the questions
that failed. -/
structure StatusTable where
  environment : String
  rows : List StatusRow
  failed : List HostError
deriving DecidableEq

/-- The status of one host as JSON. -/
def StatusRow.toJson (r : StatusRow) : Json :=
  .object [("host", .string r.host), ("label", .string r.status.condition.label),
    ("services", .ofStrings r.status.services)]

namespace StatusTable

/-- The status of a host, if it answered. -/
def get? (t : StatusTable) (host : String) : Option HostStatus :=
  (t.rows.find? (·.host == host)).map StatusRow.status

/-- The names of the hosts that answered. -/
def hostNames (t : StatusTable) : List String := t.rows.map StatusRow.host

/-- The names of the hosts that did not answer. -/
def failedHosts (t : StatusTable) : List String := t.failed.map HostError.host

/-- A table as JSON. -/
def toJson (t : StatusTable) : Json :=
  .object [("environment", .string t.environment), ("hosts", .array (t.rows.map StatusRow.toJson)),
    ("failed", .array (t.failed.map HostError.toJson))]

end StatusTable

/-- Asks all hosts of a configuration for their status, on workers that are there. -/
def Config.status (c : Config) (probe : Probe) (how : Sweep) : Batch.Reported StatusTable :=
  let add (rows : List StatusRow) (host : String) (status : HostStatus) : List StatusRow :=
    rows ++ [⟨host, status⟩]
  (sweep how [] probe.status add c.hosts.toList).map fun result =>
    { environment := c.environment
      rows := result.value
      failed := result.failures.map Batch.Failure.error }

/-- Asks all hosts of a configuration for their status, so many at a time, on workers that the
system supplies or refuses. -/
def Config.collectStatus (c : Config) (probe : Probe) (supply : Batch.Supply) (jobs : Nat) :
    Batch.Reported (Except Batch.PoolError StatusTable) :=
  supply.run jobs c.hosts.toList.length fun schedule => c.status probe ⟨jobs, schedule⟩

end Rollout
