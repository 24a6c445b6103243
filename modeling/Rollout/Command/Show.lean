import Rollout.Command.Outcome
import Rollout.Config.View
import Rollout.Json.Printer

/-!
# A configuration as JSON

## Main definitions

* `Workspace.showConfig`
-/

namespace Rollout

/-- The configuration of an environment. -/
def Workspace.showConfig (w : Workspace) (environment : String) : Outcome :=
  match w.environmentConfig environment with
  | .error e => .failed (.config e)
  | .ok config => { stdout := [config.toJson.pretty] }

end Rollout
