import Rollout.Command.Outcome
import Rollout.Json.Printer
import Rollout.Terminal.Layout

/-!
# A first document for an environment

## Main definitions

* `starterDocument` — the document that is written
* `Workspace.writeNew` — writing it where nothing stands yet
* `Workspace.init` — a first document for an environment
-/

namespace Rollout

/-- A document with one host that runs one service, to be edited. -/
def starterDocument (environment appName appPath : String) : Json :=
  .ofMembers [
    ("app", .ofMembers [("name", .string appName), ("path", .string appPath)]),
    ("environment", .string environment),
    ("defaults", .ofMembers [
      ("hosts", .ofMembers [
        ("username", .string "deploy"),
        ("services", .array [.ofMembers [("name", .string appName)]])]),
      ("services", .ofMembers [("env", .ofMembers [("PORT", .ofNat 3000)])])]),
    ("hosts", .array [.ofMembers [("name", .string (appName ++ "-1.example.com"))]]),
    ("hooks", .ofMembers [
      ("--comment", .string "Map hook events to script paths, relative to this file")])]

/-- Writes a text to a path where nothing stands yet, after creating the directories on the way
to it. The files as far as they were changed come with an error. -/
def Workspace.writeNew (w : Workspace) (path text : String) : FileTree × Option CommandError :=
  if w.files.contains w.workingDir path then (w.files, some (.alreadyExists path))
  else
    let dir := (Path.parent? path).getD ""
    match w.files.createDirectories w.workingDir dir with
    | (files, some e) => (files, some (.cannotCreate dir e))
    | (files, none) =>
      match files.write w.workingDir path text.toUTF8 with
      | .error e => (files, some (.cannotWrite path e))
      | .ok files => (files, none)

open Terminal

/-- Writes a first document for an environment, which has to mean a configuration. The name of the
application is by default that of the working directory. -/
def Workspace.init (w : Workspace) (options : Options) (environment : String)
    (appName : Option String) (appPath : String) : Outcome × FileTree :=
  match w.documentPath environment with
  | .error e => (.failed (.config e), w.files)
  | .ok path =>
    let name := appName.getD ((w.workingDir.path?.bind Path.fileName?).getD "app")
    match w.writeNew path ((starterDocument environment name appPath).pretty ++ "\n") with
    | (files, some e) => (.failed e, files)
    | (files, none) =>
      match { w with files }.loadConfig path (some environment) with
      | .error e => (.failed (.doesNotCompile path e), files)
      | .ok _ =>
        let hint := "Edit the hosts list, then run `flotilla lint` to check it."
        ({ stdout :=
            success w.colours ("Created " ++ path) ::
              if options.quiet then [] else [remark w.colours hint] },
          files)

end Rollout
