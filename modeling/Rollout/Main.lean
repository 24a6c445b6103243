import Rollout.CommandLine.Footprint
import Rollout.CommandLine.Run

/-!
# The program

The program takes a snapshot of the files that a command line depends on, runs the command line
in it, makes the directories and the file that were created, if any were, and prints what comes
out. It comes without a connection to hosts: to `history` and `status` this is a machine that has
no `ssh`.
-/

namespace Rollout.Program

/-- A tree completed with what a path leads to on this machine: a file, or a directory and the
names in it. -/
def observe (workingDir : String) (files : FileTree) (path : String) : IO FileTree := do
  let full := Path.resolve workingDir path
  let place := Place.ofPath full
  try
    let found ← IO.FS.realPath full
    if ← found.isDir then
      let known := match files.get? place with
        | some (.directory entries) => .directory entries
        | _ => FileTree.emptyDirectory
      let mut tree := FileTree.put known files place
      for entry in ← found.readDir do
        if (known.child? entry.fileName).isNone then
          let node := if ← entry.path.isDir then FileTree.emptyDirectory else .file .empty
          tree := FileTree.put node tree (place ++ [entry.fileName])
      return tree
    else
      return FileTree.put (.file (← IO.FS.readBinFile full)) files place
  catch _ => return files

/-- A workspace that knows what some paths lead to on this machine. -/
def observeAll (w : Workspace) (paths : List String) : IO Workspace := do
  let workingDir := w.workingDir.path?.getD "/"
  return { w with files := ← paths.foldlM (observe workingDir) w.files }

/-- The workspace of this process, without files. -/
def currentWorkspace : IO Workspace := do
  let workingDir ← try
      let dir ← IO.currentDir
      pure (⟨Place.ofPath dir.toString, 0⟩ : Standpoint)
    catch _ => pure ⟨[], 1⟩
  return {
    files := FileTree.put .emptyDirectory .emptyDirectory workingDir.place
    workingDir
    home := (← IO.getEnv "HOME").getD "~"
    deploySetting := ← IO.getEnv "FLOTILLA_DEPLOY_DIR"
    colours := (← (← IO.getStdout).isTty) && (← IO.getEnv "NO_COLOR").isNone
    ssh := none }

/-- Makes the directories on the way to the document of an environment that a command made, also
where it failed then, and writes the document, if it came into being. -/
def writeDocument (before after : Workspace) (environment : String) : IO Unit := do
  for path in (before.documentPath environment).toOption do
    for dir in (Path.ancestors path).reverse do
      if after.isDirectory dir && !before.isDirectory dir then IO.FS.createDirAll dir
    let old := before.files.readText before.workingDir path
    let new := after.files.readText after.workingDir path
    match old, new with
    | .error _, .ok text => IO.FS.writeFile path text
    | _, _ => pure ()

/-- The exit code for a command line that is not understood. -/
def usageCode : CommandLine.UsageError → UInt32
  | .help | .version => 0
  | _ => 2

/-- Runs a command line on this machine, and gives the exit code. -/
def run (words : List String) : IO UInt32 := do
  match CommandLine.parse words with
  | .error e =>
    let names := ", ".intercalate (CommandLine.commands.map Prod.fst)
    IO.eprintln ("usage: flotilla [-v | -q] <command>; the commands are " ++ names)
    return usageCode e
  | .ok (_, command) =>
    let w ← currentWorkspace
    let w ← observeAll w (command.documentFootprint w)
    let w ← observeAll w (command.configFootprint w)
    match CommandLine.run w words with
    | .error e => return usageCode e
    | .ok finished =>
      for environment in command.environment? do
        writeDocument w finished.workspace environment
      IO.eprint (Outcome.text finished.log)
      IO.print (Outcome.text finished.outcome.stdout)
      IO.eprint (Outcome.text finished.outcome.stderr)
      match finished.outcome.failure with
      | none => return 0
      | some e =>
        IO.eprintln ("Error: " ++ ": ".intercalate e.chain)
        return 1

end Rollout.Program

/-- The program: its arguments are the words of the command line. -/
def main (words : List String) : IO UInt32 := Rollout.Program.run words
