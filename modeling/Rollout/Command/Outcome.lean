import Rollout.Fleet.History
import Rollout.Workspace

/-!
# What a command comes to

A command writes lines to its two outputs and records to its log, executes `ssh` some times, and
succeeds or fails. None of that changes a workspace, except for the files that a command writes.

## Main definitions

* `CommandError`, `CommandError.chain` — why a command fails, and the wording
* `LogRecord`, `Options` — log records, and the options that all commands have
* `Outcome` — what a command comes to
-/

namespace Rollout

/-- Why a command fails. -/
inductive CommandError where
  /-- There is no configuration. -/
  | config (cause : ConfigError)
  /-- There is no `ssh`. -/
  | noSsh
  /-- The picked host is none of the environment. -/
  | unknownHost (cause : UnknownHost)
  /-- There are not as many workers as were wanted. -/
  | noPool (cause : Batch.PoolError)
  /-- There is no release of the wanted kind. -/
  | noRelease (kind environment : String)
  /-- The configuration has problems. -/
  | problems (count : Nat) (environment : String)
  /-- A document is there already. -/
  | alreadyExists (path : String)
  /-- The directory for a document cannot be created. -/
  | cannotCreate (dir : String) (cause : FileError)
  /-- A document cannot be written. -/
  | cannotWrite (path : String) (cause : FileError)
  /-- A document that was written means no configuration. -/
  | doesNotCompile (path : String) (cause : ConfigError)
deriving DecidableEq, Repr

/-- An error in words, followed by the reasons behind it. -/
def CommandError.chain : CommandError → List String
  | .config cause => cause.message :: cause.causes
  | .noSsh => ["`ssh` was not found on PATH; it is needed to reach hosts"]
  | .unknownHost cause => [cause.message]
  | .noPool cause => cause.message :: cause.reason :: cause.causes
  | .noRelease kind environment =>
    ["no " ++ kind ++ " release found for environment '" ++ environment ++ "'"]
  | .problems count environment =>
    [toString count ++ " problem(s) found in '" ++ environment ++ "'"]
  | .alreadyExists path => [path ++ " already exists; not overwriting"]
  | .cannotCreate dir cause => ["Failed to create " ++ dir, cause.message]
  | .cannotWrite path cause => ["Failed to write " ++ path, cause.message]
  | .doesNotCompile path cause =>
    ("generated config " ++ path ++ " does not compile") :: cause.message :: cause.causes

/-- The levels of log records in use. -/
inductive LogLevel where
  | warn
  | info
deriving DecidableEq, Repr

/-- A log record. -/
structure LogRecord where
  level : LogLevel
  text : String
deriving DecidableEq, Repr

/-- A record as a line. -/
def LogRecord.line (r : LogRecord) : String :=
  (match r.level with | .warn => "WARN " | .info => "INFO ") ++ r.text

/-- The options that all commands have. -/
structure Options where
  verbosity : Nat
  quiet : Bool
deriving DecidableEq, Repr

/-- Whether records of a level are logged. -/
def Options.logs (o : Options) : LogLevel → Bool
  | .warn => !o.quiet
  | .info => !o.quiet && 0 < o.verbosity

/-- What a command comes to. -/
structure Outcome where
  stdout : List String := []
  stderr : List String := []
  log : List LogRecord := []
  calls : List (List String) := []
  failure : Option CommandError := none

namespace Outcome

/-- The outcome of a command that fails before it does anything. -/
def failed (e : CommandError) : Outcome := { failure := some e }

/-- Lines as a text. -/
def text (lines : List String) : String := String.join (lines.map (· ++ "\n"))

/-- The lines of the log that options let through. Records of several workers come in no fixed
order; `sorted` asks for an order that does not depend on it. -/
def logLines (o : Outcome) (options : Options) (sorted : Bool) : List String :=
  let lines := (o.log.filter fun r => options.logs r.level).map LogRecord.line
  if sorted then Text.sortStrings lines else lines

end Outcome

/-- The record of a question to a host that failed. -/
def LogRecord.ofFailedQuestion (e : HostError) : LogRecord :=
  ⟨.warn, "host query failed: " ++ e.message⟩

end Rollout
