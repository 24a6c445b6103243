import Rollout.Json.Basic

/-!
# Environment documents

A document describes one environment as its author wrote it: the application, its hosts with
their services, what all hosts or all services share, and the hooks. The entries of hosts and
services stay JSON objects until the shared values have been filled in.

## Main definitions

* `Document` — a document
* `Document.orEnvironment` — a document completed with the name of its environment
* `Document.toJson` — a document as JSON
-/

namespace Rollout

/-- The section of a document about the application; the path is relative to the directory of
the document. -/
structure Document.App where
  name : String
  path : String
deriving DecidableEq, Repr

/-- The fields that every host and every service shares unless its entry has them itself. -/
structure Document.Defaults where
  hosts : Fields
  services : Fields

/-- A document as its author wrote it. -/
structure Document where
  app : Document.App
  environment : Option String
  defaults : Document.Defaults
  hosts : List Fields
  hooks : Fields

namespace Document

/-- The name of the section for a whole document, as messages give it. -/
def sectionName : String := "RawConfig"

/-- The name of the section about the application, as messages give it. -/
def App.sectionName : String := "RawApp"

/-- The name of the section of shared fields, as messages give it. -/
def Defaults.sectionName : String := "RawDefaults"

/-- No shared fields. -/
def Defaults.blank : Defaults := ⟨∅, ∅⟩

/-- The same document with the given environment, if it names none or an empty one itself. -/
def orEnvironment (doc : Document) (environment : Option String) : Document :=
  match doc.environment with
  | some name => if name.isEmpty then { doc with environment } else doc
  | none => { doc with environment }

/-- A document as JSON. An environment that is not named is left out. -/
def toJson (doc : Document) : Json :=
  let app := Json.ofMembers [("name", .string doc.app.name), ("path", .string doc.app.path)]
  let defaults := Json.ofMembers
    [("hosts", .ofDict doc.defaults.hosts), ("services", .ofDict doc.defaults.services)]
  let environment := match doc.environment with
    | some name => [("environment", Json.string name)]
    | none => []
  .ofMembers <| environment ++
    [("app", app), ("defaults", defaults), ("hosts", .array (doc.hosts.map .ofDict)),
      ("hooks", .ofDict doc.hooks)]

end Document

end Rollout
