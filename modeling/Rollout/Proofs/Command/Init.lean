import Rollout.CommandLine.Run
import Rollout.Proofs.FileTree.Straying

/-!
# What becomes of files when documents are written

A first document for an environment is written only where nothing stands. Whether anything stands
there is asked before the directories on the way are made, though, so a path that strays is taken
for free and leads to an existing file afterwards, which is then overwritten. This is the only way
in which a command changes a file.

## Main definitions

* `Workspace.Strays`, `Command.Strays` — the document of an environment strays to a place
* `Workspace.starterText` — the text of a first document
* `Workspace.WritesNew` — all ways in which writing a document can end
* `Workspace.after` — the workspace after some commands

## Main results

* `Workspace.writeNew_files` — what a new document does to the files
* `Workspace.overwrites_iff_strays` — which files `init` and whole sessions overwrite
-/

namespace Rollout

variable {w : Workspace} {path text environment : String} {place : Place} {old : ByteArray}

/-! ### New documents -/

/-- The path of the document of an environment strays to a place. -/
def Workspace.Strays (w : Workspace) (environment : String) (place : Place) : Prop :=
  ∃ path, w.documentPath environment = .ok path ∧ w.files.Strays w.workingDir path place

/-- The text of a first document for an environment. -/
def Workspace.starterText (w : Workspace) (environment : String) (appName : Option String)
    (appPath : String) : String :=
  let name := appName.getD ((w.workingDir.path?.bind Path.fileName?).getD "app")
  (starterDocument environment name appPath).pretty ++ "\n"

namespace Workspace

/-- Where the documents are is known only to who stands in a directory that exists. -/
theorem lost_of_documentPath (h : w.documentPath environment = .ok path) :
    w.workingDir.lost = 0 := by
  unfold documentPath deployDirectory surroundings Surroundings.workingPath Standpoint.path? at h
  by_cases hlost : w.workingDir.lost = 0
  · exact hlost
  · simp [hlost, bind, Except.bind] at h

/-- How writing a document where nothing stands can end, with the files that it leaves. -/
inductive WritesNew (w : Workspace) (path text : String) : FileTree → Option CommandError → Prop
  | refused (hthere : w.files.contains w.workingDir path = true) :
    WritesNew w path text w.files (some (.alreadyExists path))
  | stuck {tree : FileTree} {e : FileError}
    (hfree : w.files.contains w.workingDir path = false)
    (hmade : w.files.createDirectories w.workingDir ((Path.parent? path).getD "") =
      (tree, some e)) :
    WritesNew w path text tree (some (.cannotCreate ((Path.parent? path).getD "") e))
  | unwritten {tree : FileTree} {e : FileError}
    (hfree : w.files.contains w.workingDir path = false)
    (hmade : w.files.createDirectories w.workingDir ((Path.parent? path).getD "") = (tree, none))
    (hwrite : tree.write w.workingDir path text.toUTF8 = .error e) :
    WritesNew w path text tree (some (.cannotWrite path e))
  | written {tree files : FileTree}
    (hfree : w.files.contains w.workingDir path = false)
    (hmade : w.files.createDirectories w.workingDir ((Path.parent? path).getD "") = (tree, none))
    (hwrite : tree.write w.workingDir path text.toUTF8 = .ok files) :
    WritesNew w path text files none

theorem writesNew_writeNew (w : Workspace) (path text : String) :
    w.WritesNew path text (w.writeNew path text).1 (w.writeNew path text).2 := by
  unfold writeNew
  split
  · rename_i hthere
    exact .refused hthere
  · rename_i hfree
    have hfree : w.files.contains w.workingDir path = false := by simpa using hfree
    dsimp only
    split
    · rename_i hmade
      exact .stuck hfree hmade
    · rename_i hmade
      split
      · rename_i hwrite
        exact .unwritten hfree hmade hwrite
      · rename_i hwrite
        exact .written hfree hmade hwrite

/-- A document that is written comes where nothing stood, after the directories for it. -/
theorem write_of_writeNew {files : FileTree} (h : w.writeNew path text = (files, none)) :
    w.files.contains w.workingDir path = false ∧
      ∃ tree, w.files.createDirectories w.workingDir ((Path.parent? path).getD "") =
          (tree, none) ∧
        tree.write w.workingDir path text.toUTF8 = .ok files := by
  have hend := w.writesNew_writeNew path text
  rw [h] at hend
  cases hend with
  | written hfree hmade hwrite => exact ⟨hfree, _, hmade, hwrite⟩

/-- Making the directories for a document keeps each file and adds none. -/
theorem sameFiles_of_made {tree : FileTree} {problem : Option FileError}
    (hmade : w.files.createDirectories w.workingDir ((Path.parent? path).getD "") =
      (tree, problem)) : w.files.SameFiles tree := by
  have hsame := w.files.createDirectories_sameFiles w.workingDir ((Path.parent? path).getD "")
  rwa [hmade] at hsame

/-- Where the directories have been made, a path that led nowhere strays to where it leads now. -/
theorem strays_iff_of_made {tree : FileTree}
    (hfree : w.files.contains w.workingDir path = false)
    (hmade : w.files.createDirectories w.workingDir ((Path.parent? path).getD "") = (tree, none)) :
    w.files.Strays w.workingDir path place ↔ tree.locate w.workingDir path = .ok ⟨place, 0⟩ := by
  constructor
  · rintro ⟨-, tree', hmade', harrives⟩
    rw [hmade] at hmade'
    cases hmade'
    exact harrives
  · exact fun harrives => ⟨hfree, tree, hmade, harrives⟩

/-- A file keeps its content when a document is written, unless the path of the document strays to
it and the text is another one. -/
theorem writeNew_files (hw : w.workingDir.lost = 0)
    (hfile : w.files.get? place = some (.file old)) :
    (w.writeNew path text).1.get? place = some (.file old) ↔
      (w.files.Strays w.workingDir path place → old = text.toUTF8) := by
  have hend := w.writesNew_writeNew path text
  generalize (w.writeNew path text).1 = files, (w.writeNew path text).2 = problem at hend ⊢
  cases hend with
  | refused hthere =>
    refine ⟨fun _ hstrays => ?_, fun _ => hfile⟩
    rw [hstrays.nowhere] at hthere
    cases hthere
  | stuck hfree hmade =>
    refine ⟨fun _ hstrays => ?_, fun _ => (sameFiles_of_made hmade _ _).mpr hfile⟩
    obtain ⟨tree, hmade', -⟩ := hstrays.arrives
    rw [hmade] at hmade'
    cases hmade'
  | unwritten hfree hmade hwrite =>
    have hkept := (sameFiles_of_made hmade _ _).mpr hfile
    rw [strays_iff_of_made hfree hmade]
    -- a path that leads to a file can be written to, so this one does not
    refine ⟨fun _ hlocate => ?_, fun _ => hkept⟩
    rw [FileTree.write_of_locate hw hlocate hkept] at hwrite
    cases hwrite
  | written hfree hmade hwrite =>
    rw [strays_iff_of_made hfree hmade]
    exact FileTree.get?_write hw hwrite ((sameFiles_of_made hmade _ _).mpr hfile)

/-- A document that is written stands where no file stood, unless its path strays to a file. -/
theorem exists_of_writeNew {files : FileTree} (h : w.writeNew path text = (files, none)) :
    ∃ place, files.get? place = some (.file text.toUTF8) ∧
      ∀ old, w.files.get? place = some (.file old) →
        w.files.Strays w.workingDir path place := by
  obtain ⟨hfree, tree, hmade, hwrite⟩ := write_of_writeNew h
  obtain ⟨dir, name, entries, -, hdir, hname, rfl, hthere⟩ := FileTree.write_cases hwrite
  refine ⟨dir ++ [name], (FileTree.get?_put_file hdir hname _ _).mpr (by simp), ?_⟩
  intro old hfile
  obtain ⟨entries', hdir', hentry⟩ :=
    FileTree.directory_of_get?_append ((sameFiles_of_made hmade _ _).mpr hfile)
  obtain rfl : entries' = entries := by simpa [hdir] using hdir'.symm
  exact (strays_iff_of_made hfree hmade).mpr (hthere hentry)

/-- What `init` does to the files is writing a document, when it knows where. -/
theorem init_files (options : Options) (appName : Option String) (appPath : String) :
    (w.init options environment appName appPath).2 =
      match w.documentPath environment with
      | .error _ => w.files
      | .ok path => (w.writeNew path (w.starterText environment appName appPath)).1 := by
  unfold init starterText
  cases w.documentPath environment with
  | error e => rfl
  | ok path =>
    simp only
    split
    · rename_i h
      rw [h]
    · rename_i h
      rw [h]
      split <;> rfl

/-- A file keeps its content when `init` runs, unless the document strays to it and the text is
another one. -/
theorem get?_init (options : Options) (appName : Option String) (appPath : String)
    (hfile : w.files.get? place = some (.file old)) :
    (w.init options environment appName appPath).2.get? place = some (.file old) ↔
      (w.Strays environment place →
        old = (w.starterText environment appName appPath).toUTF8) := by
  rw [init_files]
  cases hpath : w.documentPath environment with
  | error e => simp [Strays, hpath, hfile]
  | ok path =>
    have hstrays : w.Strays environment place ↔ w.files.Strays w.workingDir path place := by
      simp [Strays, hpath]
    rw [hstrays]
    exact writeNew_files (lost_of_documentPath hpath) hfile

/-- An `init` that succeeds has written a document where no file stood, unless the document strays
to one. -/
theorem exists_of_init {options : Options} {appName : Option String} {appPath : String}
    (h : (w.init options environment appName appPath).1.failure = none) :
    ∃ place, (w.init options environment appName appPath).2.get? place =
        some (.file (w.starterText environment appName appPath).toUTF8) ∧
      ∀ old, w.files.get? place = some (.file old) → w.Strays environment place := by
  rw [init_files]
  cases hpath : w.documentPath environment with
  | error e => simp [init, hpath, Outcome.failed] at h
  | ok path =>
    cases hwrite : w.writeNew path (w.starterText environment appName appPath) with
    | mk files problem =>
    cases problem with
    | some e =>
      unfold starterText at hwrite
      simp [init, hpath, hwrite, Outcome.failed] at h
    | none =>
      obtain ⟨place, hplace, hold⟩ := exists_of_writeNew hwrite
      simp only [hwrite]
      exact ⟨place, hplace, fun old hfile => ⟨path, hpath, hold old hfile⟩⟩

/-- Without `..` in its path a document strays to no file. -/
theorem not_strays_of_no_climb (hpath : w.documentPath environment = .ok path)
    (hup : ['.', '.'] ∉ Path.segments path) (hfile : w.files.get? place = some (.file old)) :
    ¬ w.Strays environment place := by
  rintro ⟨path', hpath', hstrays⟩
  obtain rfl : path' = path := by simpa [hpath] using hpath'.symm
  exact hup (hstrays.climbs (lost_of_documentPath hpath) hfile)

end Workspace

/-! ### Sessions -/

/-- A command writes a document whose path strays to a place. -/
def Command.Strays (w : Workspace) (place : Place) : Command → Prop
  | .init environment _ _ => w.Strays environment place
  | _ => False

/-- The workspace after some commands, one after the other. -/
def Workspace.after (w : Workspace) : List (Options × Command) → Workspace
  | [] => w
  | (options, command) :: rest => (command.run w options).2.after rest

/-- A command that does not stray to a file leaves it as it is. -/
theorem Command.get?_run {command : Command} (options : Options)
    (hfile : w.files.get? place = some (.file old)) (hstrays : ¬ command.Strays w place) :
    (command.run w options).2.files.get? place = some (.file old) := by
  cases command with
  | init environment appName appPath =>
    exact (Workspace.get?_init options appName appPath hfile).mpr fun h => absurd h hstrays
  | _ => exact hfile

/-- A session in which no command strays to a file leaves it as it is. -/
theorem Workspace.get?_after {session : List (Options × Command)}
    (hfile : w.files.get? place = some (.file old))
    (hstrays : ∀ front options command back, session = front ++ (options, command) :: back →
      ¬ command.Strays (w.after front) place) :
    (w.after session).files.get? place = some (.file old) := by
  induction session generalizing w with
  | nil => exact hfile
  | cons step rest ih =>
    -- the first command keeps the file, so the rest starts from a workspace that has it
    obtain ⟨options, command⟩ := step
    have hstep := Command.get?_run options hfile (hstrays [] options command rest rfl)
    refine ih hstep fun front options' command' back hrest => ?_
    exact hstrays ((options, command) :: front) options' command' back (by rw [hrest]; rfl)

/-- What `init` overwrites. An existing file gets another content exactly if the path of the
document leads nowhere, leads to the file once the directories on its way have been made, and the
file did not hold the text already; an `init` that succeeds and does not stray to a file has created
one. So in a session of any commands each file stays as it is unless an `init` strays to it, which
takes a `..` in the path. -/
theorem Workspace.overwrites_iff_strays (w : Workspace) :
    (∀ options environment appName appPath,
      (∀ place old, w.files.get? place = some (.file old) →
        ((w.init options environment appName appPath).2.get? place ≠ some (.file old) ↔
          w.Strays environment place ∧
            old ≠ (w.starterText environment appName appPath).toUTF8)) ∧
      ((w.init options environment appName appPath).1.failure = none →
        ∃ place, (w.init options environment appName appPath).2.get? place =
            some (.file (w.starterText environment appName appPath).toUTF8) ∧
          ∀ old, w.files.get? place = some (.file old) → w.Strays environment place)) ∧
    (∀ session place old, w.files.get? place = some (.file old) →
      (∀ front options command back, session = front ++ (options, command) :: back →
        ¬ command.Strays (w.after front) place) →
      (w.after session).files.get? place = some (.file old)) ∧
    (∀ environment path place old, w.documentPath environment = .ok path →
      ['.', '.'] ∉ Path.segments path → w.files.get? place = some (.file old) →
      ¬ w.Strays environment place) := by
  refine ⟨fun options environment appName appPath => ⟨fun place old hfile => ?_, ?_⟩, ?_, ?_⟩
  · rw [ne_eq, get?_init options appName appPath hfile, Classical.not_imp]
  · exact exists_of_init
  · exact fun session place old => get?_after
  · exact fun environment path place old => not_strays_of_no_climb

/-! ### A document that strays -/

theorem Workspace.getLast?_starterText (w : Workspace) (environment : String)
    (appName : Option String) (appPath : String) :
    (w.starterText environment appName appPath).toList.getLast? = some '\n' := by
  simp [starterText]

/-- A site with a document for `production` that holds no entries yet. -/
def bareSite : Workspace where
  files := .directory [("site", .directory [("deploy", .directory
    [("production.flotilla.json", .file "{}".toUTF8)])])]
  workingDir := ⟨["site"], 0⟩
  home := "/"
  deploySetting := none
  colours := false
  ssh := none

/-- The place of the document for `production`. -/
def bareSite.production : Place := ["site", "deploy", "production.flotilla.json"]

theorem bareSite.strays : bareSite.Strays "x/../production" bareSite.production :=
  ⟨_, rfl, rfl, _, rfl, rfl⟩

theorem bareSite.content_ne (environment : String) (appName : Option String) (appPath : String) :
    "{}".toUTF8 ≠ (bareSite.starterText environment appName appPath).toUTF8 := by
  intro h
  have hlast := bareSite.getLast?_starterText environment appName appPath
  rw [← String.toByteArray_inj.mp h] at hlast
  exact absurd hlast (by decide)

/-- The document is overwritten on the way through a directory that is made for the purpose. -/
theorem bareSite.overwritten :
    bareSite.files.get? bareSite.production = some (.file "{}".toUTF8) ∧
      (bareSite.init ⟨0, false⟩ "x/../production" none "..").2.get? bareSite.production ≠
        some (.file "{}".toUTF8) := by
  refine ⟨rfl, fun hkept => ?_⟩
  exact bareSite.content_ne _ _ _
    ((Workspace.get?_init _ _ _ rfl).mp hkept bareSite.strays)

/-- The way through the missing directory overwrites the document, and the plain name does not. -/
theorem bareSite.kept_and_overwritten :
    (bareSite.init ⟨0, false⟩ "x/../production" none "..").2.get? bareSite.production ≠
        some (.file "{}".toUTF8) ∧
      (bareSite.after [(⟨0, false⟩, .init "production" none "..")]).files.get?
        bareSite.production = some (.file "{}".toUTF8) := by
  obtain ⟨hinit, hsession, hclimb⟩ := bareSite.overwrites_iff_strays
  refine ⟨?_, hsession _ _ _ rfl ?_⟩
  · exact ((hinit _ _ _ _).1 _ _ rfl).mpr ⟨bareSite.strays, bareSite.content_ne _ _ _⟩
  · intro front options command back hsplit
    rcases front with _ | ⟨step, front⟩
    · cases hsplit
      exact hclimb "production" "/site/deploy/production.flotilla.json" _ _ rfl (by decide) rfl
    · simp at hsplit

end Rollout
