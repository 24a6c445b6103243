import Rollout.Config
import Rollout.Document.Defaults
import Rollout.Path

/-!
# What a document means

A document is compiled into a configuration: paths are resolved against the directory of the
document, entries receive the shared fields they lack, and names have to be distinct. The first
problem counts: the environment first, then the hooks by event, then the hosts in order, each
with its own fields before those of its services, and last the names of the hosts.

## Main definitions

* `Surroundings`, `Surroundings.absolute` — the directories that a configuration depends on
* `Document.compile` — the configuration that a document means
-/

namespace Rollout

/-- The directory that relative paths start from, unless it has been removed, and the one that `~`
stands for. Paths are assumed to be texts: directories whose names are not valid UTF-8 are left
out. -/
structure Surroundings where
  workingDir : Option String
  home : String
deriving DecidableEq, Repr

namespace Surroundings

/-- The path of the working directory, which has to exist. -/
def workingPath (around : Surroundings) : Except ConfigError String :=
  match around.workingDir with
  | some dir => .ok dir
  | none => .error (.io "." .notFound)

/-- A directory, absolute or seen from the working directory, which has to exist only then. -/
def absolute (around : Surroundings) (dir : String) : Except ConfigError String :=
  if Path.isAbsolute dir then .ok (Path.normalize dir)
  else do return Path.resolve (← around.workingPath) dir

end Surroundings

namespace Document

open Json (Mismatch)

/-- Keys of this name in the hooks are notes for people. -/
def commentKey : String := "--comment"

/-- The fields of a host that count. -/
structure HostEntry where
  name : String
  shortName : Option String
  username : Option String
  password : Option String
  pem : Option String
  port : Option Nat
  services : List Fields

/-- The fields of a host. They are read in ascending order of their keys. -/
def HostEntry.ofFields (fields : Fields) : Except Mismatch HostEntry := do
  let name ← Json.readField? fields "name" Json.asString
  let password ← Json.readField? fields "password" Json.asOptionalString
  let pem ← Json.readField? fields "pem" Json.asOptionalString
  let port ← Json.readField? fields "port" Json.asPort
  let services ← Json.readField? fields "services" Json.asFieldsList
  let shortName ← Json.readField? fields "shortName" Json.asOptionalString
  let username ← Json.readField? fields "username" Json.asOptionalString
  return {
    name := ← Json.require "name" name
    shortName := shortName.join
    username := username.join
    password := password.join
    pem := pem.join
    port := port.join
    services := services.getD [] }

/-- The fields of a service that count, other than its variables. -/
structure ServiceEntry where
  name : String
  settingsPath : Option String

/-- The fields of a service. They are read in ascending order of their keys. -/
def ServiceEntry.ofFields (fields : Fields) : Except Mismatch ServiceEntry := do
  let name ← Json.readField? fields "name" Json.asString
  let settingsPath ← Json.readField? fields "settingsPath" Json.asOptionalString
  return ⟨← Json.require "name" name, settingsPath.join⟩

/-- A string that is not empty. -/
def filled (s : Option String) : Option String := s.filter fun s => !s.isEmpty

/-- The service that an entry means, with `base` the directory of the document. -/
def compileService (base : String) (shared entry : Fields) : Except ConfigError Service := do
  let fields := withDefaults entry shared
  let parts ← (ServiceEntry.ofFields (fields.erase "env")).mapError (.schema .service)
  let env ← mergedVariables parts.name (fields.get? "env") (shared.get? "env")
  return {
    name := parts.name
    settingsPath := (filled parts.settingsPath).map (Path.resolve base)
    env }

/-- What all hosts of an environment have in common. -/
structure Common where
  base : String
  home : String
  defaults : Defaults
  environment : String
  app : Rollout.App
  hooks : Hooks

/-- The host that an entry means. -/
def compileHost (common : Common) (entry : Fields) : Except ConfigError Host := do
  let fields := withDefaults entry common.defaults.hosts
  let parts ← (HostEntry.ofFields fields).mapError (.schema .host)
  let services ← parts.services.mapM (compileService common.base common.defaults.services)
  let services ← (Roster.ofList services).mapError (.duplicateService parts.name)
  return {
    name := parts.name
    shortName := (filled parts.shortName).getD (Host.defaultShortName parts.name)
    credentials := {
      username := parts.username
      password := parts.password
      pem := parts.pem.map (Path.expandHome common.home)
      port := parts.port }
    services
    environment := common.environment
    app := common.app
    hooks := common.hooks }

/-- Whether a value can be that of a hook: a script path, or `null` for none. -/
def isHook : Json → Bool
  | .null | .string _ => true
  | _ => false

/-- The script of a hook, with `base` the directory of the document. An empty path is none. -/
def hookScript (base : String) : Json → Option String
  | .string s => if s.isEmpty then none else some (Path.resolve base s)
  | _ => none

/-- The hooks that have a script. -/
def compileHooks (base : String) (hooks : Fields) : Except ConfigError Hooks :=
  let events := hooks.erase commentKey
  match events.entries.find? fun e => !isHook e.2 with
  | some (event, _) => .error (.invalidHook event)
  | none => .ok (events.filterMap fun _ v => hookScript base v)

/-- The configuration that a document means, its paths being relative to `dir`. -/
def compile (doc : Document) (dir : String) (around : Surroundings) :
    Except ConfigError Config := do
  let base ← around.absolute dir
  let some environment := filled doc.environment | .error .missingEnvironment
  let app : Rollout.App := ⟨doc.app.name, Path.resolve base doc.app.path⟩
  let hooks ← compileHooks base doc.hooks
  let common : Common :=
    { base, home := around.home, defaults := doc.defaults, environment, app, hooks }
  let hosts ← doc.hosts.mapM (compileHost common)
  let hosts ← (Roster.ofList hosts).mapError .duplicateHost
  return { app, environment, hosts, hooks }

/-- The configuration that a JSON value means; paths are relative to the working directory. -/
def configOfJson (v : Json) (environment : Option String) (around : Surroundings) :
    Except ConfigError Config := do
  let doc ← (Document.ofJson v).mapError (.schema .document)
  (doc.orEnvironment environment).compile (← around.workingPath) around

end Document

end Rollout
