import Rollout.Config
import Rollout.Json.Basic

/-!
# Asking hosts

What a host can be asked, what it answers, and how that fails. How a host is reached is left
open: a `Probe` is anything that answers for every host.

## Main definitions

* `HostError`, `HostError.message` — a failed question to a host
* `ReleaseList` — the releases that a host keeps
* `Condition`, `HostStatus` — whether a host and its services run
* `Probe` — a way to ask hosts
-/

namespace Rollout

/-- Why a question to a host fails. -/
inductive HostError.Kind where
  /-- The host could not be reached. -/
  | unreachable (reason : String)
  /-- The command was run on the host and failed. -/
  | commandFailed (command stderr : String)
  /-- The answer could not be understood. -/
  | malformed (detail : String)
deriving DecidableEq, Repr

/-- A failed question to a host. -/
structure HostError where
  host : String
  kind : HostError.Kind
deriving DecidableEq, Repr

namespace HostError

/-- The kind of an error in words. -/
def Kind.message : Kind → String
  | .unreachable reason => "unreachable: " ++ reason
  | .commandFailed command stderr => "`" ++ command ++ "` failed: " ++ stderr
  | .malformed detail => "unexpected response: " ++ detail

/-- An error in words. -/
def message (e : HostError) : String := e.host ++ ": " ++ e.kind.message

/-- The kind of an error as JSON: its name, and its details under that name. -/
def Kind.toJson : Kind → Json
  | .unreachable reason => .object [("unreachable", .string reason)]
  | .commandFailed command stderr =>
    .object [("command_failed",
      .object [("command", .string command), ("stderr", .string stderr)])]
  | .malformed detail => .object [("malformed", .string detail)]

/-- An error as JSON. -/
def toJson (e : HostError) : Json :=
  .object [("host", .string e.host), ("kind", e.kind.toJson)]

end HostError

/-- The releases that a host keeps, and the one it runs. -/
structure ReleaseList where
  current : Option String
  names : List String
deriving DecidableEq, Repr

/-- Whether a host runs. Other conditions than the two usual ones are kept as they are told. -/
inductive Condition where
  | running
  | stopped
  | other (label : String)
deriving DecidableEq, Repr

namespace Condition

/-- The condition that a label tells. -/
def ofLabel (label : String) : Condition :=
  if label = "running" then .running
  else if label = "stopped" then .stopped
  else .other label

/-- The label of a condition. -/
def label : Condition → String
  | .running => "running"
  | .stopped => "stopped"
  | .other label => label

/-- A condition is shown by the label that it was read from. -/
@[simp] theorem label_ofLabel (s : String) : (ofLabel s).label = s := by
  unfold ofLabel
  split
  · rename_i h
    exact h.symm
  · split
    · rename_i h
      exact h.symm
    · rfl

end Condition

/-- The condition of a host, and the state of each of its services. -/
structure HostStatus where
  condition : Condition
  services : Dict String
deriving DecidableEq

/-- A way to ask hosts: each question is answered or fails. -/
structure Probe where
  releases : Host → Except HostError ReleaseList
  status : Host → Except HostError HostStatus

end Rollout
