import Rollout.Command.Outcome
import Rollout.Json.Printer
import Rollout.Terminal.Layout

/-!
# The history of an environment

## Main definitions

* `History.table` — a history as a table
* `Workspace.history` — the history that a command line asks for
-/

namespace Rollout

open Terminal

/-- The width of the column for releases. -/
def releaseWidth : Nat := 24

/-- A release in the table: current ones are highlighted, and those that some host lacks are in
italics and come with the hosts that keep them. -/
def HistoryEntry.line (colours : Bool) (e : HistoryEntry) : String :=
  let style : Style :=
    { bold := e.release.current
      italic := e.coverage == .incomplete
      colour := if e.release.current then some .cyan else none }
  let cell := style.paint colours (column e.release.name releaseWidth)
  let count := toString e.release.hostNames.size
  match e.coverage with
  | .complete => cell ++ "All  (" ++ count ++ ")"
  | .incomplete =>
    cell ++ "Some (" ++ count ++ ") " ++ dim colours (", ".intercalate e.release.hosts.toList)

/-- A history as a table. -/
def History.table (colours : Bool) (h : History) : List String :=
  let title := Style.paint { bold := true, underline := true, colour := some .yellow } colours
  let entries := h.entries
  let failures :=
    if h.failed.isEmpty then []
    else
      ["  " ++ Style.paint { bold := true, colour := some .red } colours "=> Failure:" ++
        " Unable to query hosts: " ++ ", ".intercalate h.failedHosts, ""]
  ["", "  " ++ title (column "Release" releaseWidth) ++ title "Hosts"] ++
    (if entries.isEmpty then [remark colours "no releases found"] else []) ++
    entries.map (fun e => "  " ++ e.line colours) ++
    ["  " ++ dim colours "* currents highlighted", ""] ++ failures

/-- The shown part of a history as JSON. -/
def History.shownJson (h : History) : Json :=
  .ofMembers [("environment", .string h.environment),
    ("failed", .array (h.failed.map HostError.toJson)),
    ("releases", .array (h.entries.map HistoryEntry.toJson))]

/-- The history of an environment: a table, JSON, or the name of one release. -/
def Workspace.history (w : Workspace) (environment : String) (query : HistoryQuery) (jobs : Nat)
    (json : Bool) : Outcome :=
  match w.environmentConfig environment, w.ssh with
  | .error e, _ => .failed (.config e)
  | .ok _, none => .failed .noSsh
  | .ok config, some client =>
    match query.hosts config, config.collectHistory (Ssh.probe client) query w.supply jobs with
    | .error e, _ | _, .error e => .failed (.unknownHost e)
    | .ok hosts, .ok report =>
      match report.value with
      | .error e => .failed (.noPool e)
      | .ok h =>
        let calls := (hosts.flatMap Ssh.releasesCalls).filter Ssh.canStart
        let asked := h.failed.map LogRecord.ofFailedQuestion
        if query.current || query.previous then
          let log := asked ++ h.failed.map fun e => ⟨.warn, e.message⟩
          match if query.current then h.current? else h.previous? with
          | some release => { stdout := [release.name], log, calls }
          | none =>
            let kind := if query.current then "current" else "previous"
            { log, calls, failure := some (.noRelease kind h.environment) }
        else if json then { stdout := [h.shownJson.pretty], log := asked, calls }
        else
          { stdout := h.table w.colours
            log := asked ++ h.failed.map fun e => ⟨.info, e.message⟩
            calls }

end Rollout
