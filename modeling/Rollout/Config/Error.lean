import Rollout.Document.OfText
import Rollout.FileTree.Error

/-!
# Why there is no configuration

## Main definitions

* `ConfigError`, `ConfigError.message` — the reasons, and the wording
* `ConfigError.causes` — the reasons behind a reason
-/

namespace Rollout

/-- The part of a document that a mismatch is found in. -/
inductive ConfigError.Part where
  | document
  | host
  | service
deriving DecidableEq, Repr

/-- A part of a document in words. -/
def ConfigError.Part.message : ConfigError.Part → String
  | .document => "configuration document"
  | .host => "host entry"
  | .service => "service entry"

/-- Why there is no configuration. -/
inductive ConfigError where
  /-- There is no such file. -/
  | notFound (path : String)
  /-- The file holds no document. -/
  | parse (path : String) (problem : Document.Problem) (position : Json.Position)
  /-- The file or directory cannot be read. -/
  | io (path : String) (cause : FileError)
  /-- A value does not fit. -/
  | schema (part : ConfigError.Part) (cause : Json.Mismatch)
  /-- The environment has no name. -/
  | missingEnvironment
  /-- Two hosts have one name. -/
  | duplicateHost (host : String)
  /-- Two services of a host have one name. -/
  | duplicateService (host service : String)
  /-- An environment variable is an array or an object. -/
  | invalidVariable (service key : String)
  /-- A hook is no script path. -/
  | invalidHook (event : String)
  /-- The directory of the documents does not exist. -/
  | noDeployDirectory (path : String)
deriving DecidableEq, Repr

namespace ConfigError

/-- The problem of a text with its position, in words. -/
def located (problem : Document.Problem) (position : Json.Position) : String :=
  problem.words ++ " at " ++ position.message

/-- An error in words. -/
def message : ConfigError → String
  | .notFound path =>
    "configuration file " ++ path ++
      " not found. Run `flotilla init <environment>` to create it."
  | .parse path problem position =>
    "error loading JSON config " ++ path ++ ": " ++ located problem position
  | .io path cause => "IO error on " ++ path ++ ": " ++ cause.message
  | .schema part cause => "invalid " ++ part.message ++ ": " ++ cause.message
  | .missingEnvironment => "no environment name given and none set in the configuration"
  | .duplicateHost host => "duplicate host '" ++ host ++ "'"
  | .duplicateService host service =>
    "duplicate service '" ++ service ++ "' on host '" ++ host ++ "'"
  | .invalidVariable service key =>
    "env variable '" ++ key ++ "' of service '" ++ service ++
      "' must be a string, number or boolean"
  | .invalidHook event => "hook '" ++ event ++ "' must be a script path"
  | .noDeployDirectory path => "deploy directory " ++ path ++ " not found"

/-- The reasons behind an error, in words. -/
def causes : ConfigError → List String
  | .parse _ problem position => [located problem position]
  | .io _ cause => [cause.message]
  | .schema _ cause => [cause.message]
  | _ => []

end ConfigError

end Rollout
