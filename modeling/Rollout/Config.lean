import Rollout.Dict
import Rollout.Host.Address
import Rollout.Roster

/-!
# Configurations

A configuration is what a document means: every path is resolved, every host and service has its
shared fields, and nothing refers back to the document.

## Main definitions

* `App`, `Service`, `Credentials`, `Host`, `Config` — the parts of a configuration
* `Host.defaultShortName` — the alias of a host that is given none
* `Config.services`, `Config.service?` — look-up by the names of host and service
-/

namespace Rollout

/-- The deployed application, with the path of its sources. -/
structure App where
  name : String
  path : String
deriving DecidableEq

/-- A service of a host, with its settings file and its environment variables. -/
structure Service where
  name : String
  settingsPath : Option String
  env : Dict String
deriving DecidableEq

instance : Named Service := ⟨Service.name⟩

/-- How to log in at a host; `pem` is the path of a private key. -/
structure Credentials where
  username : Option String
  password : Option String
  pem : Option String
  port : Option Nat
deriving DecidableEq

/-- The hooks of an environment: a script for each event that has one. -/
abbrev Hooks := Dict String

/-- A host of an environment. The environment, the application and the hooks are those of the
configuration that the host belongs to. -/
structure Host where
  name : String
  shortName : String
  credentials : Credentials
  services : Roster Service
  environment : String
  app : App
  hooks : Hooks
deriving DecidableEq

instance : Named Host := ⟨Host.name⟩

/-- The alias of a host that is given none: its name up to the first dot. An address, and a name
that starts with a dot, stands for itself. -/
def Host.defaultShortName (name : String) : String :=
  if Address.isNumeric name then name
  else
    let label := name.toList.takeWhile (· != '.')
    if label.isEmpty then name else String.ofList label

/-- The configuration of an environment. -/
structure Config where
  app : App
  environment : String
  hosts : Roster Host
  hooks : Hooks
deriving DecidableEq

namespace Config

/-- The services of a host; none if there is no such host. -/
def services (c : Config) (host : String) : List Service :=
  match c.hosts.get? host with
  | some h => h.services.toList
  | none => []

/-- One service of one host. -/
def service? (c : Config) (host service : String) : Option Service :=
  (c.hosts.get? host).bind (·.services.get? service)

/-- The alias of a host: as configured, or as it would be by default. -/
def shortName (c : Config) (host : String) : String :=
  match c.hosts.get? host with
  | some h => h.shortName
  | none => Host.defaultShortName host

end Config

end Rollout
