import Rollout.Ssh.Answer
import Rollout.Text.Decode

/-!
# Scripted answers

A client that answers from a table, by the destination it is given, instead of connecting to
hosts.

## Main definitions

* `Ssh.startFault?` — why a program cannot be started with some words
* `Ssh.Script`, `Ssh.Script.client` — scripts, and the client that answers from one
-/

namespace Rollout.Ssh

/-- A scripted end of `ssh`: without an exit code it was killed. -/
structure Reply where
  stdout : ByteArray
  stderr : ByteArray
  code : Option Nat

/-- The reply to an unknown destination. -/
def Reply.noRoute : Reply := ⟨.empty, "no route to host\n".toUTF8, some connectionFailed⟩

/-- Replies by destination. -/
abbrev Script := Dict Reply

/-- How many bytes a word has to stay below. -/
def wordLengthBound : Nat := 131072

/-- Why a program cannot be started with some words, if it cannot: no word may hold a null
character or be too long. -/
def startFault? (words : List String) : Option String :=
  if words.any fun w => w.toList.contains '\x00' then some "nul byte found in provided data"
  else if words.any fun w => decide (wordLengthBound ≤ w.utf8ByteSize) then
    some "Argument list too long (os error 7)"
  else none

/-- Whether a program can be started with some words. -/
def canStart (words : List String) : Bool := (startFault? words).isNone

/-- The client that answers from a script. The destination is the last word but one. -/
def Script.client (script : Script) : Client := fun words =>
  match startFault? words with
  | some reason => .notStarted reason
  | none =>
    let reply := (words.dropLast.getLast?.bind script.get?).getD .noRoute
    .ended reply.code (Text.decode reply.stdout) (Text.trimString (Text.decode reply.stderr))

end Rollout.Ssh
