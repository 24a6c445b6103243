import Rollout.Config.Error

/-!
# Shared fields and variables

An entry receives the shared fields that it lacks, as they are: a field that it has counts, even
one that is `null`, and nothing is merged inside. Only the environment variables of a service are
completed one by one; there `null` takes a variable away.

## Main definitions

* `Document.withDefaults` — an entry completed with shared fields
* `Document.mergedVariables` — the variables of a service
-/

namespace Rollout.Document

/-- An entry completed with the shared fields whose keys it lacks. -/
def withDefaults (entry shared : Fields) : Fields := entry.orElse shared

/-- The members of a value, where it is an object. -/
def membersOf : Option Json → Fields
  | some (.object members) => .ofList members
  | _ => ∅

/-- The value of a variable as text; `null` is no value. -/
def variableText : Json → Option String
  | .string s => some s
  | .number n => some n.text
  | .bool b => some (if b then "true" else "false")
  | _ => none

/-- Whether a value can be that of a variable. -/
def isVariable : Json → Bool
  | .array _ | .object _ => false
  | _ => true

/-- The variables of a service: its own, completed with the shared ones. Values other than
objects hold none. -/
def mergedVariables (service : String) (own shared : Option Json) :
    Except ConfigError (Dict String) :=
  let merged := withDefaults (membersOf own) (membersOf shared)
  match merged.entries.find? fun e => !isVariable e.2 with
  | some (key, _) => .error (.invalidVariable service key)
  | none => .ok (merged.filterMap fun _ v => variableText v)

end Rollout.Document
