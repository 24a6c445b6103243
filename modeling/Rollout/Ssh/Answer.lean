import Rollout.Fleet.Probe
import Rollout.Ssh.Command

/-!
# Answers of remote hosts

What the output of a remote command says, and what an execution of `ssh` comes to.

## Main definitions

* `Ssh.parseHistory`, `Ssh.summarize` — outputs read as releases and as a status
* `Ssh.Execution`, `Ssh.Client` — an execution of `ssh`, and anything that executes it
* `Ssh.probe` — hosts asked through a client
* `Ssh.releasesCalls`, `Ssh.statusCalls` — the executions that a question to a host needs
-/

namespace Rollout.Ssh

open Text (trim filledLines splitOnce)

/-- The last component of a path that a link shows, whatever slashes it ends in. -/
def linkName? (link : List Char) : Option String :=
  let path := Text.dropWhileEnd (· == '/') link
  let name := path.reverse.takeWhile (· != '/') |>.reverse
  if name.isEmpty then none else some (String.ofList name)

/-- The releases that an output tells: the link, the mark, and then one release a line. Without
the mark it tells nothing. -/
def parseHistory (stdout : String) : Option ReleaseList := do
  let (link, listing) ← splitOnce sectionMark.toList stdout.toList
  return ⟨linkName? (trim link), (filledLines listing).map String.ofList⟩

/-- The condition of a host whose services are in given states. -/
def condition (states : List String) : Condition :=
  let active := (states.filter (· == "active")).length
  if active = states.length then .running
  else if active = 0 then .stopped
  else .other "partial"

/-- The status that an output tells: one state a line, in the order of the services. With more or
fewer lines it tells nothing. -/
def summarize (services : List String) (stdout : String) : Option HostStatus :=
  let states := (filledLines stdout.toList).map String.ofList
  if states.length = services.length then
    some ⟨condition states, .ofList (services.zip states)⟩
  else none

/-- What comes of executing `ssh`: it does not start, or it ends with an exit code, or with none
when it is killed. Both outputs are texts already, and that on standard error is trimmed: that bytes
are decoded, what is not UTF-8 being replaced, and trimmed is modelled by `Script.client` alone. -/
inductive Execution where
  | notStarted (reason : String)
  | ended (code : Option Nat) (stdout stderr : String)
deriving DecidableEq, Repr

/-- Anything that executes `ssh` with some words. -/
abbrev Client := List String → Execution

/-- The exit code of `ssh` when the connection fails. -/
def connectionFailed : Nat := 255

/-- Runs a command on a host: the exit code and the outputs, or why the host is unreachable. -/
def execute (client : Client) (host : Host) (command : String) :
    Except HostError (Option Nat × String × String) :=
  let words := arguments host command
  match client words with
  | .notStarted reason =>
    .error ⟨host.name, .unreachable
      ("Failed to execute: ssh " ++ " ".intercalate words ++ ": " ++ reason)⟩
  | .ended code stdout stderr =>
    if code = some connectionFailed then .error ⟨host.name, .unreachable stderr⟩
    else .ok (code, stdout, stderr)

/-- Asks a host for its releases. -/
def releases (client : Client) (host : Host) : Except HostError ReleaseList := do
  let command := historyCommand host.app.name
  let (code, stdout, stderr) ← execute client host command
  if code ≠ some 0 then .error ⟨host.name, .commandFailed command stderr⟩
  else
    match parseHistory stdout with
    | some answer => .ok answer
    | none => .error ⟨host.name, .malformed "missing release listing"⟩

/-- Asks a host for its status. A host without services is stopped and is not asked. The exit
code counts only where the output tells nothing, since it reports inactive services too. -/
def status (client : Client) (host : Host) : Except HostError HostStatus :=
  let services := host.services.names
  if services.isEmpty then .ok ⟨.stopped, ∅⟩
  else do
    let command := statusCommand services
    let (code, stdout, stderr) ← execute client host command
    match summarize services stdout with
    | some answer => .ok answer
    | none =>
      if code = some 0 then .error ⟨host.name, .malformed "one state per service expected"⟩
      else .error ⟨host.name, .commandFailed command stderr⟩

/-- Hosts asked through a client. -/
def probe (client : Client) : Probe := ⟨releases client, status client⟩

/-- The executions that asking a host for its releases needs. -/
def releasesCalls (host : Host) : List (List String) :=
  [arguments host (historyCommand host.app.name)]

/-- The executions that asking a host for its status needs. -/
def statusCalls (host : Host) : List (List String) :=
  if host.services.isEmpty then [] else [arguments host (statusCommand host.services.names)]

end Rollout.Ssh
