import Rollout.Proofs.Command.Starter

/-!
# What a failed `init` leaves

An `init` takes nothing back when it fails. A failure before the document is written leaves every
file and every directory as it was, but the directories that were made on the way stay. A document
that was written fails to compile only if the environment has no name, and stays as well.

## Main definitions

* `Workspace.Leaves` — what there is after a failure

## Main results

* `Workspace.failed_init_leaves` — a failed `init` leaves that, unless the environment has no name
* `Workspace.unnamed_stays` — the document of an environment without a name
-/

namespace Rollout

namespace Workspace

variable {w : Workspace} {options : Options} {environment appPath path text : String}
  {appName : Option String} {files : FileTree}

/-- What an `init` leaves of the files when it fails before its document is written: all as they
were, or new directories besides. -/
inductive Leaves (w : Workspace) : CommandError → FileTree → Prop
  | config {cause : ConfigError} : Leaves w (.config cause) w.files
  | alreadyExists {path : String} : Leaves w (.alreadyExists path) w.files
  | cannotCreate {dir : String} {cause : FileError} {files : FileTree}
    (hsame : w.files.SameFiles files) (hwide : w.files.Widens files) :
    Leaves w (.cannotCreate dir cause) files
  | cannotWrite {path : String} {cause : FileError} {files : FileTree}
    (hsame : w.files.SameFiles files) (hwide : w.files.Widens files) :
    Leaves w (.cannotWrite path cause) files

theorem Leaves.sameFiles {e : CommandError} (h : w.Leaves e files) : w.files.SameFiles files := by
  cases h with
  | config => exact .refl _
  | alreadyExists => exact .refl _
  | cannotCreate hsame => exact hsame
  | cannotWrite hsame => exact hsame

theorem widens_of_made {tree : FileTree} {problem : Option FileError}
    (hmade : w.files.createDirectories w.workingDir ((Path.parent? path).getD "") =
      (tree, problem)) : w.files.Widens tree := by
  have hwide := w.files.createDirectories_widens w.workingDir ((Path.parent? path).getD "")
  rwa [hmade] at hwide

/-- A document that cannot be written leaves new directories at most. -/
theorem leaves_of_writeNew {e : CommandError} (h : w.writeNew path text = (files, some e)) :
    w.Leaves e files := by
  have hend := w.writesNew_writeNew path text
  rw [h] at hend
  cases hend with
  | refused => exact .alreadyExists
  | stuck _ hmade => exact .cannotCreate (sameFiles_of_made hmade) (widens_of_made hmade)
  | unwritten _ hmade => exact .cannotWrite (sameFiles_of_made hmade) (widens_of_made hmade)

/-- An `init` that fails leaves every file and every directory that there was, and nothing new but
directories, unless the environment has no name and its document does not compile. As said at
`FileTree.write`, writing a file is assumed not to fail half-way. -/
theorem failed_init_leaves {e : CommandError}
    (hfail : (w.init options environment appName appPath).1.failure = some e) :
    w.Leaves e (w.init options environment appName appPath).2 ∨
      environment = "" ∧ ∃ path cause, e = .doesNotCompile path cause := by
  have hend := w.inits_init options environment appName appPath
  rw [hfail] at hend
  generalize (w.init options environment appName appPath).2 = files at hend
  cases hend with
  | placeless => exact .inl .config
  | unwritten _ hwrite => exact .inl (leaves_of_writeNew hwrite)
  | unnamed hunnamed => exact .inr ⟨hunnamed, _, _, rfl⟩

/-- The document of an environment without a name stays once it is written, although it does not
compile. -/
theorem unnamed_stays (hpath : w.documentPath "" = .ok path)
    (hwrite : w.writeNew path (w.starterText "" appName appPath) = (files, none)) :
    (w.init options "" appName appPath).1.failure =
        some (.doesNotCompile path .missingEnvironment) ∧
      (w.init options "" appName appPath).2 = files ∧
      { w with files }.loadConfig path (some "") = .error .missingEnvironment := by
  have hload := loadConfig_written (lost_of_documentPath hpath) hwrite
  obtain ⟨normal, hnormal⟩ :=
    exists_absolute (lost_of_documentPath hpath) ((Path.parent? path).getD ".")
  rw [Document.compile_starter_eq_error hnormal] at hload
  refine ⟨?_, by rw [init_files, hpath]; simp only [hwrite], hload⟩
  rw [starterText] at hwrite
  simp only [init, hpath, hwrite, hload, Outcome.failed]

end Workspace

/-! ### A directory that stays -/

/-- A workspace whose documents are in `/d`, where a file `f` stands. -/
def blockedSite : Workspace where
  files := .directory [("d", .directory [("f", .file "{}".toUTF8)])]
  workingDir := ⟨[], 0⟩
  home := "/"
  deploySetting := some "/d"
  colours := false
  ssh := none

/-- The path of the document for `n/../f/x`, on which `/d/n` is made before `/d/f` turns out to be
no directory. -/
def blockedSite.path : String := "/d/n/../f/x.flotilla.json"

theorem blockedSite.documentPath_eq :
    blockedSite.documentPath "n/../f/x" = .ok blockedSite.path := by
  rfl

theorem blockedSite.createDirectories_eq :
    let made := blockedSite.files.createDirectories blockedSite.workingDir
      ((Path.parent? blockedSite.path).getD "")
    made.2 = some .exists ∧ (made.1.get? ["d", "n"]).isSome = true := by
  decide +kernel

theorem blockedSite.contains_eq :
    blockedSite.files.contains blockedSite.workingDir blockedSite.path = false := by
  decide +kernel

/-- The document cannot be made, and the directory stays that was made for it. -/
theorem blockedSite.init_eq :
    (blockedSite.init ⟨0, false⟩ "n/../f/x" none "..").1.failure =
        some (.cannotCreate ((Path.parent? blockedSite.path).getD "") .exists) ∧
      ((blockedSite.init ⟨0, false⟩ "n/../f/x" none "..").2.get? ["d", "n"]).isSome = true := by
  obtain ⟨hproblem, hnew⟩ := blockedSite.createDirectories_eq
  rw [Workspace.init, blockedSite.documentPath_eq]
  simp only [Workspace.writeNew, blockedSite.contains_eq, Bool.false_eq_true, ↓reduceIte]
  generalize blockedSite.files.createDirectories blockedSite.workingDir
    ((Path.parent? blockedSite.path).getD "") = made at hproblem hnew ⊢
  obtain ⟨files, problem⟩ := made
  cases hproblem
  exact ⟨rfl, hnew⟩

/-- An `init` that fails leaves a new directory. -/
theorem blockedSite.directory_left :
    (blockedSite.init ⟨0, false⟩ "n/../f/x" none "..").1.failure ≠ none ∧
      (blockedSite.init ⟨0, false⟩ "n/../f/x" none "..").2 ≠ blockedSite.files := by
  obtain ⟨hfail, hnew⟩ := blockedSite.init_eq
  refine ⟨by simp [hfail], fun hsame => ?_⟩
  rw [hsame] at hnew
  exact absurd hnew (by decide +kernel)

/-- The file that stands in the way stays as it is. -/
theorem blockedSite.file_stays :
    (blockedSite.init ⟨0, false⟩ "n/../f/x" none "..").2.get? ["d", "f"] =
      some (.file "{}".toUTF8) := by
  rcases Workspace.failed_init_leaves blockedSite.init_eq.1 with hleaves | ⟨hunnamed, -⟩
  · exact (hleaves.sameFiles _ _).mpr rfl
  · exact absurd hunnamed (by decide)

end Rollout
