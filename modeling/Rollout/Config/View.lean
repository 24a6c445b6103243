import Rollout.Config
import Rollout.Json.Basic

/-!
# Configurations as JSON

A configuration is shown as a document that means the same: what hosts and services share has
been filled in, and of the credentials only the user name is shown.

## Main definitions

* `Config.toJson` — a configuration as JSON
-/

namespace Rollout

/-- A service as JSON. -/
def Service.toJson (s : Service) : Json :=
  .ofMembers
    [("env", .ofStrings s.env), ("name", .string s.name),
      ("settingsPath", .ofOption s.settingsPath)]

/-- A host as JSON. -/
def Host.toJson (h : Host) : Json :=
  .ofMembers
    [("name", .string h.name), ("services", .array (h.services.map Service.toJson)),
      ("shortName", .string h.shortName), ("username", .ofOption h.credentials.username)]

/-- An application as JSON. -/
def App.toJson (a : App) : Json :=
  .ofMembers [("name", .string a.name), ("path", .string a.path)]

/-- A configuration as JSON. Its paths are texts, as for `Surroundings`; a path that is not valid
UTF-8 could not be shown. -/
def Config.toJson (c : Config) : Json :=
  .ofMembers
    [("app", c.app.toJson), ("environment", .string c.environment), ("hooks", .ofStrings c.hooks),
      ("hosts", .array (c.hosts.map Host.toJson))]

end Rollout
