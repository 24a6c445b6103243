import Rollout.Proofs.Command.Listing
import Rollout.Proofs.Text.Order

/-!
# Documents of listed environments

The environments of a directory are found by the names of its entries alone. A directory can have
such a name as well as a file, and is listed then, although there is no document to be read in its
place. Where this does not happen the listing is that of the documents. Each of them can be loaded
from the path that is made of its name, as far as finding and opening a file goes, unless that path
is too long for the system.

## Main definitions

* `Workspace.HasDocument`, `Workspace.HasImpostor` — a directory holds the document of an
  environment, or a directory in its place

## Main results

* `Workspace.loadDocument_eq_notFound_iff`, `Workspace.loadDocument_eq_isDirectory_iff` — when
  there is no file to be loaded
* `Workspace.environments_exact` — which environments are listed, and which of them have no
  document to be loaded
-/

namespace Rollout

variable {w : Workspace} {dir path environment : String} {names : List String}

/-- Different names of documents are those of different environments. -/
theorem Location.nodup_environmentOf? (h : names.Nodup) :
    (names.filterMap environmentOf?).Nodup := by
  -- the name of an environment and the suffix are all that the name of its document has
  refine h.filterMap fun first second environment hfirst hsecond => ?_
  obtain ⟨-, rfl⟩ := environmentOf?_eq_some_iff.mp hfirst
  obtain ⟨-, rfl⟩ := environmentOf?_eq_some_iff.mp hsecond
  rfl

namespace Workspace

/-! ### What stands for a document -/

/-- What a directory holds under the name of the document of an environment. -/
def document? (w : Workspace) (dir environment : String) : Option FileTree :=
  w.files.held? w.workingDir dir (environment ++ Location.documentSuffix)

/-- A directory holds a file under the name of the document of an environment. -/
def HasDocument (w : Workspace) (dir environment : String) : Prop :=
  ∃ content, w.document? dir environment = some (.file content)

/-- A directory holds another directory under the name of the document of an environment. -/
def HasImpostor (w : Workspace) (dir environment : String) : Prop :=
  ∃ entries, w.document? dir environment = some (.directory entries)

theorem isSome_document?_iff :
    (w.document? dir environment).isSome ↔
      w.HasDocument dir environment ∨ w.HasImpostor dir environment := by
  unfold HasDocument HasImpostor
  rcases w.document? dir environment with _ | (content | entries) <;> simp

theorem not_hasDocument_of_hasImpostor (h : w.HasImpostor dir environment) :
    ¬ w.HasDocument dir environment := by
  rintro ⟨content, hfile⟩
  obtain ⟨entries, hdirectory⟩ := h
  cases hfile.symm.trans hdirectory

/-! ### Loading a document -/

/-- A document is not found exactly where its path leads nowhere. -/
theorem loadDocument_eq_notFound_iff :
    (∃ p, w.loadDocument path = .error (.notFound p)) ↔
      w.files.at? w.workingDir path = none := by
  unfold loadDocument FileTree.contains
  cases w.files.at? w.workingDir path with
  | none => simp
  | some t =>
    cases w.files.readText w.workingDir path with
    | error e => simp
    | ok text => cases hdoc : Document.ofText text <;> simp [hdoc]

/-- Loading a document fails because of a directory exactly where its path leads to one. -/
theorem loadDocument_eq_isDirectory_iff :
    (∃ p, w.loadDocument path = .error (.io p .isDirectory)) ↔
      ∃ entries, w.files.at? w.workingDir path = some (.directory entries) := by
  unfold loadDocument FileTree.contains
  cases hthere : w.files.at? w.workingDir path with
  | none => simp
  | some t =>
    have hread := FileTree.readText_eq_isDirectory_iff hthere
    cases hcontent : w.files.readText w.workingDir path with
    | error e => simpa [hcontent] using hread
    | ok text =>
      cases hdoc : Document.ofText text <;> simpa [hcontent, hdoc] using hread

/-- The path of the document of an environment leads to what the directory holds in its place, if
it is not too long. -/
theorem at?_documentPath (hfiles : w.files.ProperlyNamed)
    (hlength : (Location.documentPath dir environment).utf8ByteSize < FileTree.pathLengthBound)
    {t : FileTree} (h : w.document? dir environment = some t) :
    w.files.at? w.workingDir (Location.documentPath dir environment) = some t :=
  FileTree.at?_join (FileTree.AllNames.of_held? hfiles h) hlength h

/-- The document of an environment is not found exactly if its path is too long, provided the
directory holds something in its place. -/
theorem documentPath_notFound_iff (hfiles : w.files.ProperlyNamed)
    (h : (w.document? dir environment).isSome) :
    (∃ p, w.loadDocument (Location.documentPath dir environment) = .error (.notFound p)) ↔
      FileTree.pathLengthBound ≤ (Location.documentPath dir environment).utf8ByteSize := by
  obtain ⟨t, ht⟩ := Option.isSome_iff_exists.mp h
  rw [loadDocument_eq_notFound_iff]
  constructor
  · intro hnone
    by_contra hlength
    rw [at?_documentPath hfiles (Nat.lt_of_not_le hlength) ht] at hnone
    cases hnone
  · exact FileTree.at?_of_length

theorem documentPath_isDirectory_iff (hfiles : w.files.ProperlyNamed)
    (h : (w.document? dir environment).isSome) :
    (∃ p, w.loadDocument (Location.documentPath dir environment) = .error (.io p .isDirectory)) ↔
      (Location.documentPath dir environment).utf8ByteSize < FileTree.pathLengthBound ∧
        w.HasImpostor dir environment := by
  obtain ⟨t, ht⟩ := Option.isSome_iff_exists.mp h
  rw [loadDocument_eq_isDirectory_iff]
  by_cases hlength :
      (Location.documentPath dir environment).utf8ByteSize < FileTree.pathLengthBound
  · simp [at?_documentPath hfiles hlength ht, hlength, HasImpostor, ht]
  · simp [FileTree.at?_of_length (Nat.le_of_not_lt hlength), hlength]

/-! ### What is listed -/

theorem environments_eq_error_iff {e : ConfigError} :
    w.environments dir = .error e ↔ w.isDirectory dir = false ∧ e = .noDeployDirectory dir := by
  unfold environments isDirectory
  rw [← FileTree.list_eq_none_iff]
  cases w.files.list w.workingDir dir <;> simp [eq_comm]

/-- The environments that are listed are those for whose documents the directory holds something,
whatever it is. -/
theorem mem_of_environments (h : w.environments dir = .ok names) :
    environment ∈ names ↔ environment ≠ "" ∧ (w.document? dir environment).isSome := by
  rw [document?, FileTree.isSome_held?_iff, ← mem_environments_iff, h]
  simp

/-- The environments that are listed are in the order of their bytes, each once. -/
theorem pairwise_of_environments (h : w.environments dir = .ok names) :
    names.Pairwise fun a b => Text.bytes a < Text.bytes b := by
  unfold environments at h
  split at h
  · cases h
  · rename_i entries hentries
    cases h
    have hascending := Text.pairwise_sortStrings
      (Location.nodup_environmentOf? (FileTree.nodup_of_list hentries))
    exact hascending.imp Text.bytes_lt_bytes_iff.mpr

/-- What a listing of a directory shows: it fails exactly if there is no such directory, and
otherwise gives in strictly ascending order of bytes, without the empty name, the environments for
whose documents the directory holds anything. These are the environments that have a document
exactly if the directory holds no other directory in the place of a document. On loading, the
document of such an environment is not found exactly if its path is too long, and is found to be a
directory exactly if there is one in its place. -/
theorem environments_exact (w : Workspace) (dir : String) :
    (∀ e, w.environments dir = .error e ↔
      w.isDirectory dir = false ∧ e = .noDeployDirectory dir) ∧
    ∀ names, w.environments dir = .ok names →
      names.Pairwise (fun a b => Text.bytes a < Text.bytes b) ∧
      (∀ E, E ∈ names ↔ E ≠ "" ∧ (w.document? dir E).isSome) ∧
      ((∀ E, E ∈ names ↔ E ≠ "" ∧ w.HasDocument dir E) ↔
        ∀ E, E ≠ "" → ¬ w.HasImpostor dir E) ∧
      (w.files.ProperlyNamed → ∀ E ∈ names,
        ((∃ p, w.loadDocument (Location.documentPath dir E) = .error (.notFound p)) ↔
          FileTree.pathLengthBound ≤ (Location.documentPath dir E).utf8ByteSize) ∧
        ((∃ p, w.loadDocument (Location.documentPath dir E) = .error (.io p .isDirectory)) ↔
          (Location.documentPath dir E).utf8ByteSize < FileTree.pathLengthBound ∧
            w.HasImpostor dir E)) := by
  refine ⟨fun e => environments_eq_error_iff, fun names h =>
    ⟨pairwise_of_environments h, fun E => mem_of_environments h, ?_, fun hfiles E hlisted => ?_⟩⟩
  · -- what is listed has a document or a directory in its place, and not both
    simp only [mem_of_environments h, isSome_document?_iff]
    refine forall_congr' fun E => ?_
    have hexclusive : w.HasImpostor dir E → ¬ w.HasDocument dir E :=
      not_hasDocument_of_hasImpostor
    tauto
  · have hthere := ((mem_of_environments h).mp hlisted).2
    exact ⟨documentPath_notFound_iff hfiles hthere, documentPath_isDirectory_iff hfiles hthere⟩

end Workspace

/-! ### A directory in the place of a document -/

/-- A site with a document for `production`, and a directory in the place of one for `staging`. -/
def clutteredSite : Workspace :=
  { bareSite with
    files := .directory [("site", .directory [("deploy", .directory
      [("staging.flotilla.json", .directory []),
        ("production.flotilla.json", .file "{}".toUTF8)])])] }

theorem clutteredSite.properlyNamed : clutteredSite.files.ProperlyNamed :=
  have hempty : FileTree.emptyDirectory.AllNames FileTree.IsFileName :=
    FileTree.allNames_emptyDirectory
  .cons (by decide) (.cons (by decide)
    (.cons (by decide) hempty (.cons (by decide) (FileTree.allNames_file _) hempty)) hempty) hempty

theorem clutteredSite.environments_deploy :
    clutteredSite.environments "/site/deploy" = .ok ["production", "staging"] := by
  have hlist : clutteredSite.files.list clutteredSite.workingDir "/site/deploy" =
      some ["staging.flotilla.json", "production.flotilla.json"] := by
    rfl
  have hnames : ["staging.flotilla.json", "production.flotilla.json"].filterMap
      Location.environmentOf? = ["staging", "production"] := by
    decide
  -- sorting is not structurally recursive, so it is unfolded and not computed
  have hsort : Text.sortStrings ["staging", "production"] = ["production", "staging"] := by
    simp [Text.sortStrings, List.mergeSort]
  rw [Workspace.environments, hlist]
  simp only [hnames, hsort]

theorem clutteredSite.hasImpostor : clutteredSite.HasImpostor "/site/deploy" "staging" :=
  ⟨[], rfl⟩

/-- The environment `staging` is listed, has no document, and cannot be loaded, for there is a
directory in the place of its document. -/
theorem clutteredSite.impostor_listed :
    (∃ names, clutteredSite.environments "/site/deploy" = .ok names ∧ "staging" ∈ names) ∧
      ¬ clutteredSite.HasDocument "/site/deploy" "staging" ∧
      clutteredSite.loadDocument (Location.documentPath "/site/deploy" "staging") =
        .error (.io "/site/deploy/staging.flotilla.json" .isDirectory) :=
  ⟨⟨_, clutteredSite.environments_deploy, by simp⟩,
    Workspace.not_hasDocument_of_hasImpostor clutteredSite.hasImpostor, rfl⟩

/-- Of the environments that are listed, `staging` meets a directory on loading, and the document of
`production` is found. -/
theorem clutteredSite.listed_loaded :
    ["production", "staging"].Pairwise (fun a b => Text.bytes a < Text.bytes b) ∧
      (∃ p, clutteredSite.loadDocument (Location.documentPath "/site/deploy" "staging") =
        .error (.io p .isDirectory)) ∧
      ¬ ∃ p, clutteredSite.loadDocument (Location.documentPath "/site/deploy" "production") =
        .error (.notFound p) := by
  obtain ⟨hascending, -, -, hload⟩ := (Workspace.environments_exact clutteredSite "/site/deploy").2
    _ clutteredSite.environments_deploy
  have hstaging := hload clutteredSite.properlyNamed "staging" (by simp)
  have hproduction := hload clutteredSite.properlyNamed "production" (by simp)
  refine ⟨hascending, hstaging.2.mpr ⟨by decide, clutteredSite.hasImpostor⟩, ?_⟩
  rw [hproduction.1]
  decide

end Rollout
