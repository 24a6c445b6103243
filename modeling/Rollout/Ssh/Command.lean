import Rollout.Config
import Rollout.Text.Blank

/-!
# Commands for remote hosts

The words that `ssh` is given, and the shell commands that it runs on a host. Names inside a
shell command are quoted so that the shell takes them as they are.

Releases are kept in `/opt/<app>/releases`, and `/opt/<app>/current` is a link to the one that
runs. A service is the unit of its name.

## Main definitions

* `Ssh.quote` — a word in single quotes
* `Ssh.historyCommand`, `Ssh.statusCommand` — the shell commands
* `Ssh.arguments` — the words for `ssh`
-/

namespace Rollout.Ssh

/-- A word in single quotes. A quote inside stands escaped between two quoted parts. -/
def quote (word : String) : String :=
  String.ofList ('\'' :: Text.replaceChar '\'' ['\'', '\\', '\'', '\''] word.toList ++ ['\''])

/-- The line between the link and the list of releases. -/
def sectionMark : String := "--releases--"

/-- The directory of an application on its hosts. -/
def appDirectory (app : String) : String := "/opt/" ++ app

/-- The command that shows the link to the current release and lists all releases. -/
def historyCommand (app : String) : String :=
  "readlink " ++ quote (appDirectory app ++ "/current") ++ " || true; echo " ++ sectionMark ++
    "; ls -1 " ++ quote (appDirectory app ++ "/releases")

/-- The command that tells the state of each service on a line of its own. -/
def statusCommand (services : List String) : String :=
  "systemctl is-active " ++ " ".intercalate (services.map quote)

/-- Where `ssh` connects to. -/
def destination (host : Host) : String :=
  match host.credentials.username with
  | some user => user ++ "@" ++ host.name
  | none => host.name

/-- The words for `ssh`, the last of them being the command for the host. -/
def arguments (host : Host) (command : String) : List String :=
  ["-o", "BatchMode=yes"] ++
    (match host.credentials.port with
      | some port => ["-p", toString port]
      | none => []) ++
    (match host.credentials.pem with
      | some pem => ["-i", pem]
      | none => []) ++
    [destination host, command]

end Rollout.Ssh
