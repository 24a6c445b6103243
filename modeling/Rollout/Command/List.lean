import Rollout.Command.Outcome
import Rollout.Terminal.Layout

/-!
# The environments that have a document

## Main definitions

* `Workspace.listing` — the environments as lines
-/

namespace Rollout

open Terminal

/-- The environments that have a document, and where. -/
def Workspace.listing (w : Workspace) (options : Options) : Outcome :=
  match do let dir ← w.deployDirectory; return (dir, ← w.environments dir) with
  | .error e => .failed (.config e)
  | .ok (dir, environments) =>
    let top :=
      if options.quiet then []
      else header w.colours "Environments" ++ [pair w.colours "Deploy dir" dir, ""]
    let bullet := (Style.ofColour .cyan).paint w.colours "•"
    let entry (environment : String) : List String :=
      if options.quiet then [environment]
      else
        ["  " ++ bullet ++ " " ++ bold w.colours environment,
          remark w.colours ("  " ++ Location.documentPath dir environment)]
    let none := "No environments found. Run `flotilla init <environment>` to create one."
    let body := if environments.isEmpty then [info w.colours none] else environments.flatMap entry
    { stdout := top ++ body }

end Rollout
