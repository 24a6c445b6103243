import Rollout.Command.Outcome
import Rollout.CommandLine.Grammar

/-!
# Command lines

The commands, their options, and the command that a command line stands for. The options for
verbosity may stand before the name of a command and after it.

## Main definitions

* `Command` — the commands
* `CommandLine.parse` — the command that some words stand for
-/

namespace Rollout

/-- The shells that completions can be asked for. -/
def shells : List String := ["bash", "elvish", "fish", "powershell", "zsh"]

/-- The commands with what they are given. -/
inductive Command where
  | history (environment : String) (query : HistoryQuery) (jobs : Nat) (json : Bool)
  | status (environment : String) (jobs : Nat) (json : Bool)
  | list
  | showConfig (environment : String)
  | lint (environment : String)
  | init (environment : String) (appName : Option String) (appPath : String)
  | completions (shell : String)
deriving DecidableEq, Repr

/-- How many hosts a command asks at a time. -/
def Command.jobs : Command → Nat
  | .history _ _ jobs _ => jobs
  | .status _ jobs _ => jobs
  | _ => 1

namespace CommandLine

/-- The options that all commands have. -/
def commonOptions : List Opt :=
  [⟨"verbose", some 'v', .count⟩, ⟨"quiet", some 'q', .flag⟩, ⟨"help", some 'h', .help⟩,
    ⟨"version", some 'V', .version⟩]

/-- The name of an environment. -/
def environmentArgument : Argument := ⟨"environment", .text⟩

/-- The number of hosts to ask at a time. -/
def jobsOption : Opt := ⟨"jobs", some 'j', .value .natural⟩

/-- The option for JSON. -/
def jsonOption : Opt := ⟨"json", none, .flag⟩

/-- A flag without a letter. -/
def flagOption (name : String) : Opt := ⟨name, none, .flag⟩

/-- An option with any text as its value, without a letter. -/
def textOption (name : String) : Opt := ⟨name, none, .value .text⟩

/-- What a command is given, with the options that all commands have. -/
def commandSpec (options : List Opt) (arguments : List Argument)
    (exclusive : List (String × String)) : Spec :=
  ⟨commonOptions ++ options, arguments, exclusive⟩

/-- The commands by name, with what they are given and how they are made of it. -/
def commands : List (String × Spec × (Given → Command)) :=
  let environment (g : Given) : String := (g.value? "environment").getD ""
  let jobs (g : Given) : Nat := ((g.value? "jobs").bind parseNatural).getD 1
  [("history",
      commandSpec [textOption "host", flagOption "all", flagOption "current",
          flagOption "previous", jobsOption, jsonOption]
        [environmentArgument] [("current", "previous")],
      fun g => .history (environment g)
        ⟨g.value? "host", g.has "all", g.has "current", g.has "previous"⟩ (jobs g) (g.has "json")),
    ("status", commandSpec [jobsOption, jsonOption] [environmentArgument] [],
      fun g => .status (environment g) (jobs g) (g.has "json")),
    ("list", commandSpec [] [] [], fun _ => .list),
    ("show", commandSpec [] [environmentArgument] [], fun g => .showConfig (environment g)),
    ("lint", commandSpec [] [environmentArgument] [], fun g => .lint (environment g)),
    ("init", commandSpec [textOption "app-name", textOption "app-path"] [environmentArgument] [],
      fun g => .init (environment g) (g.value? "app-name") ((g.value? "app-path").getD "..")),
    ("completions", commandSpec [] [⟨"shell", .oneOf shells⟩] [],
      fun g => .completions ((g.value? "shell").getD ""))]

/-- The name of the command that explains commands. -/
def helpName : String := "help"

/-- Whether a word names a command. -/
def isCommandName (word : String) : Bool :=
  word == helpName || (commands.lookup word).isSome

/-- What the words after `help` ask for: one command may be named. -/
def helpFor : List String → UsageError
  | [] => .help
  | [word] => if isCommandName word then .help else .invalidSubcommand
  | _ => .invalidSubcommand

/-- The options in front of a command, without arguments. -/
def topSpec : Spec := commandSpec [] [] []

/-- The verbosity that options in front of a command and behind it come to: for each of them
those behind it count, if there are any. -/
def mergeOptions (top inner : Given) : Options :=
  ⟨if inner.count = 0 then top.count else inner.count, top.has "quiet" || inner.has "quiet"⟩

/-- Reads the words up to the name of a command, and then the command. -/
def parseFrom (top : Given) : List String → Except UsageError (Options × Command)
  | [] =>
    .error (if top.count = 0 ∧ top.values.isEmpty then .helpOnMissing else .missingSubcommand)
  | word :: rest =>
    if top.onlyArguments then
      .error (if isCommandName word then .unknownArgument else .invalidSubcommand)
    else if word == helpName then .error (helpFor rest)
    else
      match commands.lookup word with
      | some (spec, make) => do
        let given ← spec.read rest
        return (mergeOptions top given, make given)
      | none =>
        match word.toList with
        | '-' :: _ :: _ => do parseFrom (← topSpec.readWord top word) rest
        | _ => .error .invalidSubcommand

/-- The command that some words stand for, and the options that all commands have. -/
def parse (words : List String) : Except UsageError (Options × Command) := parseFrom {} words

end CommandLine

end Rollout
