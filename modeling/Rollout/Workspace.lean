import Rollout.Batch.Pool
import Rollout.Document.Compile
import Rollout.FileTree
import Rollout.Ssh.Script

/-!
# Workspaces

A workspace is all that the commands see of the machine they run on: its files, the working
directory, the home directory, the setting for the directory of the documents, whether output is
coloured, the `ssh` that is there, if any, and the pools of workers that it makes.

The document of an environment is the file `<environment>.flotilla.json` in the directory of the
documents. That is `deploy` in the working directory, unless set otherwise.

## Main definitions

* `Location.deployDirectory`, `Location.documentPath` — where documents are
* `Workspace` — workspaces
* `Workspace.loadDocument`, `Workspace.loadConfig`, `Workspace.environmentConfig` — documents and
  configurations from files
* `Workspace.environments` — the environments that have a document
-/

namespace Rollout

namespace Location

/-- What the name of a document ends in. -/
def documentSuffix : String := ".flotilla.json"

/-- The directory of the documents: as set, unless the setting is blank, or else `deploy` in the
working directory. -/
def deployDirectory (setting : Option String) (workingDir home : String) : String :=
  match setting.filter fun dir => !(Text.trim dir.toList).isEmpty with
  | some dir => Path.resolve workingDir (Path.expandHome home dir)
  | none => Path.join workingDir "deploy"

/-- The path of the document of an environment. -/
def documentPath (dir environment : String) : String :=
  Path.join dir (environment ++ documentSuffix)

/-- The environment whose document has a name, if it is the name of one. -/
def environmentOf? (fileName : String) : Option String :=
  let name := fileName.toList
  let suffix := documentSuffix.toList
  if suffix.isSuffixOf name ∧ suffix.length < name.length then
    some (String.ofList (name.take (name.length - suffix.length)))
  else none

end Location

/-- What the commands see of the machine they run on. All paths on it are assumed to be texts, as
for `Surroundings`; of a directory whose name is not valid UTF-8, an `init` could not make the name
of an application either, and would call it `app`. -/
structure Workspace where
  files : FileTree
  workingDir : Standpoint
  home : String
  deploySetting : Option String
  colours : Bool
  ssh : Option Ssh.Client
  supply : Batch.Supply := .plenty

namespace Workspace

/-- The directories that configurations depend on. -/
def surroundings (w : Workspace) : Surroundings := ⟨w.workingDir.path?, w.home⟩

/-- The directory of the documents. The working directory has to exist, also where the setting
does not need it. -/
def deployDirectory (w : Workspace) : Except ConfigError String := do
  return Location.deployDirectory w.deploySetting (← w.surroundings.workingPath) w.home

/-- The path where the document of an environment is expected. -/
def documentPath (w : Workspace) (environment : String) : Except ConfigError String := do
  return Location.documentPath (← w.deployDirectory) environment

/-- The workspace without what is at a place. -/
def remove (w : Workspace) (place : Place) : Workspace :=
  { w with files := w.files.remove place, workingDir := w.workingDir.afterRemoval place }

/-- Whether a path leads to a directory. -/
def isDirectory (w : Workspace) (path : String) : Bool := w.files.isDirectory w.workingDir path

/-- Whether a path leads to a file. -/
def isFile (w : Workspace) (path : String) : Bool := w.files.isFile w.workingDir path

/-- The document in a file. -/
def loadDocument (w : Workspace) (path : String) : Except ConfigError Document :=
  if !w.files.contains w.workingDir path then .error (.notFound path)
  else
    match w.files.readText w.workingDir path with
    | .error e => .error (.io path e)
    | .ok text =>
      match Document.ofText text with
      | .ok doc => .ok doc
      | .error problem =>
        .error (.parse path problem (Json.Position.ofOffset text problem.offset))

/-- The configuration that the document in a file means, relative to the directory of the file.
`environment` counts where the document names none. -/
def loadConfig (w : Workspace) (path : String) (environment : Option String) :
    Except ConfigError Config := do
  let doc ← w.loadDocument path
  (doc.orEnvironment environment).compile ((Path.parent? path).getD ".") w.surroundings

/-- The configuration of an environment. -/
def environmentConfig (w : Workspace) (environment : String) : Except ConfigError Config := do
  w.loadConfig (← w.documentPath environment) (some environment)

/-- The environments that have a document in a directory, in ascending order. -/
def environments (w : Workspace) (dir : String) : Except ConfigError (List String) :=
  match w.files.list w.workingDir dir with
  | none => .error (.noDeployDirectory dir)
  | some names => .ok (Text.sortStrings (names.filterMap Location.environmentOf?))

end Workspace

end Rollout
