import Rollout.Command.Outcome
import Rollout.Terminal.Layout

/-!
# Checking a configuration

A configuration may be fine in itself and still fail at a deployment: its files may be missing,
or there may be nothing to deploy to.

## Main definitions

* `Problem`, `Problem.message` — what will not work
* `Config.problems` — the problems of a configuration in a workspace
* `Workspace.lint` — a configuration in short, with its problems
-/

namespace Rollout

/-- What will not work at a deployment. -/
inductive Problem where
  /-- The document names another environment than its file. -/
  | otherEnvironment (named stored : String)
  /-- The path of the application is no directory. -/
  | noApp (path : String)
  /-- There are no hosts. -/
  | noHosts
  /-- A host has no services. -/
  | noServices (host : String)
  /-- The private key of a host is no file. -/
  | noKey (host path : String)
  /-- The settings of a service are no file. -/
  | noSettings (service host path : String)
  /-- The script of a hook is no file. -/
  | noScript (event path : String)
deriving DecidableEq, Repr

/-- A problem in words. -/
def Problem.message : Problem → String
  | .otherEnvironment named stored =>
    "document names environment '" ++ named ++ "' but is stored as '" ++ stored ++ "'"
  | .noApp path => "app path " ++ path ++ " does not exist"
  | .noHosts => "no hosts defined"
  | .noServices host => "host '" ++ host ++ "' has no services"
  | .noKey host path => "host '" ++ host ++ "': pem file " ++ path ++ " does not exist"
  | .noSettings service host path =>
    "service '" ++ service ++ "' on '" ++ host ++ "': settings file " ++ path ++ " does not exist"
  | .noScript event path => "hook '" ++ event ++ "': script " ++ path ++ " does not exist"

/-- A problem in a list, if it is one. -/
def Problem.when (problem : Problem) (isOne : Bool) : List Problem :=
  if isOne then [problem] else []

/-- The problem with a file that is named, if it is no file. -/
def Problem.unlessFile (w : Workspace) (problem : String → Problem) : Option String → List Problem
  | none => []
  | some path => (problem path).when (!w.isFile path)

/-- The problems of a service of a host. -/
def Service.problems (w : Workspace) (host : String) (s : Service) : List Problem :=
  Problem.unlessFile w (.noSettings s.name host) s.settingsPath

/-- The problems of a host. -/
def Host.problems (w : Workspace) (h : Host) : List Problem :=
  Problem.when (.noServices h.name) h.services.isEmpty ++
    Problem.unlessFile w (.noKey h.name) h.credentials.pem ++
    h.services.toList.flatMap (Service.problems w h.name)

/-- The problems of a configuration whose document is stored under the name of an environment. -/
def Config.problems (w : Workspace) (stored : String) (c : Config) : List Problem :=
  Problem.when (.otherEnvironment c.environment stored) (c.environment != stored) ++
    Problem.when (.noApp c.app.path) (!w.isDirectory c.app.path) ++
    Problem.when .noHosts c.hosts.isEmpty ++
    c.hosts.toList.flatMap (Host.problems w) ++
    c.hooks.entries.flatMap fun (event, path) =>
      Problem.when (.noScript event path) (!w.isFile path)

open Terminal

/-- A host and its services, with their variables if these are wanted. -/
def Host.lines (w : Workspace) (verbose : Bool) (h : Host) : List String :=
  let login := match h.credentials.username with
    | some user => user ++ "@"
    | none => ""
  let service (s : Service) : List String :=
    ("      " ++ s.name) ::
      if verbose then
        s.env.entries.map fun (key, value) => remark w.colours ("      " ++ key ++ "=" ++ value)
      else []
  ("  " ++ (Style.ofColour .cyan).paint w.colours "•" ++ " " ++ dim w.colours login ++
      bold w.colours h.name ++ " " ++ dim w.colours ("(" ++ h.shortName ++ ")")) ::
    h.services.toList.flatMap service

/-- The configuration of an environment in short, and its problems. -/
def Workspace.lint (w : Workspace) (options : Options) (environment : String) : Outcome :=
  match w.environmentConfig environment with
  | .error e => .failed (.config e)
  | .ok c =>
    let summary :=
      header w.colours ("Environment: " ++ c.environment) ++
        [pair w.colours "App" c.app.name, pair w.colours "Path" c.app.path,
          pair w.colours "Hosts" (toString c.hosts.size)]
    let hosts :=
      sectionTitle w.colours "Hosts" ++
        c.hosts.toList.flatMap (Host.lines w (0 < options.verbosity))
    let hooks :=
      if c.hooks.isEmpty then []
      else
        sectionTitle w.colours "Hooks" ++
          c.hooks.entries.map fun (event, path) => pair w.colours event path
    let problems := c.problems w environment
    let verdict :=
      if problems.isEmpty then [success w.colours "Configuration is valid"]
      else problems.map fun p => warning w.colours p.message
    { stdout := summary ++ hosts ++ hooks ++ "" :: verdict
      failure :=
        if problems.isEmpty then none else some (.problems problems.length environment) }

end Rollout
