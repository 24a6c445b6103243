import Rollout.Command.Outcome
import Rollout.Fleet.Status
import Rollout.Json.Printer
import Rollout.Terminal.Layout

/-!
# The status of an environment

## Main definitions

* `StatusTable.lines` — a status as a table
* `Workspace.status` — the status that a command line asks for
-/

namespace Rollout

open Terminal

/-- The states of services in one line. -/
def HostStatus.serviceStates (s : HostStatus) : String :=
  let states := s.services.entries.map fun (service, state) => service ++ ": " ++ state
  "\x7b " ++ ", ".intercalate states ++ " \x7d"

/-- The width of the column for hosts: that of the longest name, and two blanks. -/
def StatusTable.hostWidth (t : StatusTable) : Nat :=
  (t.rows.map fun r => r.host.length).max?.getD 0 + 2

/-- The rows of a status as lines. -/
def StatusTable.lines (colours : Bool) (t : StatusTable) : List String :=
  t.rows.map fun r =>
    bold colours (column r.host t.hostWidth) ++ conditionLabel colours r.status.condition ++
      "  " ++ dim colours r.status.serviceStates

/-- The status of an environment: a table or JSON. -/
def Workspace.status (w : Workspace) (environment : String) (jobs : Nat) (json : Bool) : Outcome :=
  match w.environmentConfig environment, w.ssh with
  | .error e, _ => .failed (.config e)
  | .ok _, none => .failed .noSsh
  | .ok config, some client =>
    match (config.collectStatus (Ssh.probe client) w.supply jobs).value with
    | .error e => .failed (.noPool e)
    | .ok t =>
      let calls := (config.hosts.toList.flatMap Ssh.statusCalls).filter Ssh.canStart
      let log := t.failed.map LogRecord.ofFailedQuestion
      if json then { stdout := [t.toJson.pretty], log, calls }
      else
        let summary :=
          if t.failed.isEmpty then []
          else
            [warning w.colours ("Unable to query " ++ toString t.failed.length ++ " host(s): " ++
              ", ".intercalate t.failedHosts)]
        { stdout := "" :: t.lines w.colours ++ "" :: summary
          stderr := t.failed.map fun e => failure w.colours e.message
          log
          calls }

end Rollout
