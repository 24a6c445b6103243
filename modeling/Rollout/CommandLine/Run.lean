import Rollout.Command.History
import Rollout.Command.Init
import Rollout.Command.Lint
import Rollout.Command.List
import Rollout.Command.Show
import Rollout.Command.Status
import Rollout.CommandLine.Parse

/-!
# Running command lines

## Main definitions

* `Command.run` — a command in a workspace
* `CommandLine.run` — a command line in a workspace
-/

namespace Rollout

/-- Runs a command in a workspace. Only `init` changes files. Completions are left to the shells:
asking for them gives nothing. -/
def Command.run (w : Workspace) (options : Options) : Command → Outcome × Workspace
  | .history environment query jobs json => (w.history environment query jobs json, w)
  | .status environment jobs json => (w.status environment jobs json, w)
  | .list => (w.listing options, w)
  | .showConfig environment => (w.showConfig environment, w)
  | .lint environment => (w.lint options environment, w)
  | .init environment appName appPath =>
    let (outcome, files) := w.init options environment appName appPath
    (outcome, { w with files })
  | .completions _ => ({}, w)

/-- What a command line comes to, with the options that it gives. -/
structure CommandLine.Finished where
  options : Options
  command : Command
  outcome : Outcome
  workspace : Workspace

/-- The lines of the log. With several jobs their order is not that of the hosts. -/
def CommandLine.Finished.log (f : Finished) : List String :=
  f.outcome.logLines f.options (1 < f.command.jobs)

/-- Runs a command line in a workspace. -/
def CommandLine.run (w : Workspace) (words : List String) : Except UsageError Finished := do
  let (options, command) ← parse words
  let (outcome, workspace) := command.run w options
  return { options, command, outcome, workspace }

end Rollout
