import Rollout.CommandLine.Parse
import Rollout.Workspace

/-!
# What a command looks at

The files of a workspace that a command depends on, so that a program can take a snapshot of
those alone. They come in two portions: where the document of the environment is has to be known
before it can tell what else counts.

## Main definitions

* `Command.environment?` — the environment that a command is about
* `Command.documentFootprint` — the directory of the documents, and the document
* `Config.footprint` — the files that a configuration names
-/

namespace Rollout

/-- The environment that a command is about, if it is about one. -/
def Command.environment? : Command → Option String
  | .history environment .. | .status environment .. | .showConfig environment
  | .lint environment | .init environment .. => some environment
  | .list | .completions _ => none

/-- The directory of the documents, and the document of the environment behind the directories on
the way to it, the outermost first. -/
def Command.documentFootprint (w : Workspace) (c : Command) : List String :=
  match w.deployDirectory with
  | .error _ => []
  | .ok dir =>
    let document := match c.environment? with
      | none => []
      | some environment =>
        let path := Location.documentPath dir environment
        (Path.ancestors path).reverse ++ [path]
    dir :: document

/-- The files that a host names. -/
def Host.footprint (h : Host) : List String :=
  h.credentials.pem.toList ++ h.services.toList.filterMap Service.settingsPath

/-- The files and the directory that a configuration names. -/
def Config.footprint (c : Config) : List String :=
  c.app.path :: c.hosts.toList.flatMap Host.footprint ++ c.hooks.entries.map Prod.snd

/-- The files that the configuration of a command's environment names, if there is one. -/
def Command.configFootprint (w : Workspace) (c : Command) : List String :=
  match c.environment?.map w.environmentConfig with
  | some (.ok config) => config.footprint
  | _ => []

end Rollout
